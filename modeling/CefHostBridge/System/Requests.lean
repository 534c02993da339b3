import CefHostBridge.System.Delivery
import CefHostBridge.System.Counters

/-!
# What a served request leaves behind

A turn of the listener changes two things that the rest of the bridge sees: the request counters,
which `/status` reports, and the task it hands to the control thread.

The counters count attempts. `/open` and `/eval` raise theirs once the parameter they need is there,
and `/input` as soon as its `type` is not empty: a click without coordinates, a type that
`BuildInputScript` does not know, and a post that `CefPostTask` rejects all raise it. So in every
run each counter is, modulo `2^64`, the number of served requests whose route and parameter name it
(`requestCounter`, `run_request_counters`).

`NativeInputTask` takes `int` arguments, and `/input` builds them in two ways. A click takes the `x`
and `y` parameters through `ParseIntDefault` with the default `-1`, and is refused unless both are
at least 0; its wheel delta is 0. A scroll takes the same parameters, and a negative or missing one
falls back to half the frame's width or height, read under the lock as a `uint32_t` and cast to
`int`; its delta is the `delta` parameter, 120 by default. Half a `uint32_t` lies within `int`, so
every `NativeInputTask` that the control thread runs or holds in its queue has its position in
`[0, 2^31)`, an `int` delta, and no delta for a click (`run_input_tasks_ok`).

Both are proved for the dispatch once (`handleRequest_get`, `handleRequest_posted_ok`) and carried
along a run: the counters by a step and a run lemma, the tasks by the inversion lemmas of the queue
(`Bridge.mem_postsAlong`, `Bridge.mem_posts`, `serveConnection_posted`).
-/

namespace CefHostBridge

/-! ## The counters -/

/-- The counter that a parsed request raises: `/open` with a `url`, `/eval` with a `js`, and
`/input` with a `type`, whether or not the rest of the request is valid and its post is taken. -/
def requestCounter (req : HttpRequest) : Option Counter :=
  if req.path = lit "/open" then
    if getParam req (lit "url") = [] then none else some .openRequests
  else if req.path = lit "/eval" then
    if getParam req (lit "js") = [] then none else some .evalRequests
  else if req.path = lit "/input" then
    if toLowerAscii (getParam req (lit "type")) = [] then none else some .inputRequests
  else none

/-- Raising the counter of a route, if it has one, adds one to that counter and to no other. -/
theorem Counter.get_bumpRoute (k : Counter) (s : SharedState) (c : Option Counter) :
    k.get (s.bumpRoute c) = k.get s + if c = some k then 1 else 0 := by
  cases c with
  | none => simp [SharedState.bumpRoute]
  | some k' =>
    by_cases h : k = k'
    · subst h
      simp [SharedState.bumpRoute]
    · simp [SharedState.bumpRoute, h, Ne.symm h]

/-- `postTask` writes no counter. -/
theorem postTask_get (s : SharedState) (task : Task) (err ok : Bytes) (accepted : Bool)
    (k : Counter) : k.get (postTask s task err ok accepted).state = k.get s := by
  cases accepted <;> simp [postTask]

/-- `/open` and `/eval` raise their counter exactly when their parameter is not empty. -/
theorem serveParam_get (s : SharedState) (value missing : Bytes) (k : Counter) (task : Task)
    (err ok : Bytes) (accepted : Bool) (k' : Counter) :
    k'.get (serveParam s value missing k task err ok accepted).state =
      k'.get (s.bumpRoute (if value = [] then none else some k)) := by
  unfold serveParam
  split_ifs <;> simp only [postTask_get, SharedState.bumpRoute]

/-- `/input` raises its counter exactly when its type is not empty. -/
theorem serveInput_get (s : SharedState) (req : HttpRequest) (accepted : Bool) (k : Counter) :
    k.get (serveInput s req accepted).state =
      k.get (s.bumpRoute
        (if toLowerAscii (getParam req (lit "type")) = [] then none else some .inputRequests)) := by
  simp only [serveInput]
  split_ifs <;> simp only [postTask_get, SharedState.bumpRoute]

/-- **The counter of a request.** The dispatch raises the counter that `requestCounter` names, and
no other. -/
theorem handleRequest_get (s : SharedState) (req : HttpRequest) (accepted : Bool) (k : Counter) :
    k.get (handleRequest s req accepted).state = k.get (s.bumpRoute (requestCounter req)) := by
  by_cases hopen : req.path = lit "/open"
  · rw [handleRequest, if_neg (show req.path ≠ lit "/status" by rw [hopen]; decide), if_pos hopen,
      requestCounter, if_pos hopen]
    exact serveParam_get ..
  by_cases heval : req.path = lit "/eval"
  · rw [handleRequest, if_neg (show req.path ≠ lit "/status" by rw [heval]; decide), if_neg hopen,
      if_pos heval, requestCounter, if_neg hopen, if_pos heval]
    exact serveParam_get ..
  by_cases hinput : req.path = lit "/input"
  · rw [handleRequest, if_neg (show req.path ≠ lit "/status" by rw [hinput]; decide), if_neg hopen,
      if_neg heval, if_pos hinput, requestCounter, if_neg hopen, if_neg heval, if_pos hinput]
    exact serveInput_get ..
  rw [requestCounter, if_neg hopen, if_neg heval, if_neg hinput]
  unfold handleRequest
  simp only [hopen, heval, hinput, if_false]
  split_ifs <;> rfl

/-- `SetTitle` writes no counter. -/
@[simp] theorem Counter.get_setTitle (k : Counter) (s : SharedState) (title : Bytes) :
    k.get (s.setTitle title) = k.get s := by
  cases k <;> rfl

/-- `SetRunning` writes no counter. -/
@[simp] theorem Counter.get_setRunning (k : Counter) (s : SharedState) (running : Bool) :
    k.get (s.setRunning running) = k.get s := by
  cases k <;> rfl

/-- Running a task writes no counter. -/
@[simp] theorem Task.execute_get (browser : Bool) (s : SharedState) (t : Task) (k : Counter) :
    k.get (t.execute browser s) = k.get s := by
  cases t <;> cases browser <;> cases k <;> rfl

/-- Whether a step raises the counter `k`: a turn on the accepted client whose request the listener
read and parsed, and whose route and parameter name `k`. -/
def Bridge.raises (b : Bridge) (k : Counter) : Event → Bool
  | .serve rs _ =>
    b.listener = .serve &&
      match readHttpRequest rs with
      | .done (some raw) _ => (parseHttpRequest raw).bind requestCounter = some k
      | _ => false
  | _ => false

/-- The number of steps of a run that raise the counter `k`. -/
def Bridge.raisesAlong (k : Counter) : Bridge → List Event → Nat
  | _, [] => 0
  | b, e :: es => (if b.raises k e then 1 else 0) + (b.step e).raisesAlong k es

/-- **The step of a counter.** A step adds one to the counter `k` when it raises it, and nothing
otherwise. -/
theorem Bridge.step_get (b : Bridge) (e : Event) (k : Counter) :
    k.get (b.step e).shared = k.get b.shared + if b.raises k e then 1 else 0 := by
  cases e
  case serve rs accepted =>
    by_cases hl : b.listener = .serve
    · simp only [step, raises, hl, if_true, decide_True, Bool.true_and]
      unfold serveConnection
      cases readHttpRequest rs with
      | blocked => simp
      | done raw rest =>
        cases raw with
        | none => simp
        | some raw =>
          simp only [serveRequest]
          split <;> rename_i hp <;> simp [hp, handleRequest_get, Counter.get_bumpRoute]
    · simp [step, raises, hl]
  case runTask =>
    simp only [step, raises]
    split <;> simp
  case paint p => simp [raises, (b.shared.onPaint_running_counters p).2]
  all_goals simp only [step, raises]; first | (simp; done) | (split <;> simp)

/-- Along a run, a counter grows by the number of steps that raise it, modulo `2^64`. -/
theorem Bridge.run_get (k : Counter) :
    ∀ (es : List Event) (b : Bridge),
      (k.get (b.run es).shared).toNat = ((k.get b.shared).toNat + b.raisesAlong k es) % 2^64
  | [], b => by rw [run_nil, raisesAlong, Nat.add_zero, Nat.mod_eq_of_lt (uint64_toNat_lt _)]
  | e :: es, b => by
    rw [run_cons, run_get k es, step_get, raisesAlong]
    split_ifs
    · rw [uint64_toNat_add_one]
      omega
    · simp only [add_zero, Nat.zero_add]

/-- **What the counters count.** In every run from the state `main` builds, each request counter
is, modulo `2^64`, the number of requests of the run that the listener read and parsed and whose
route and parameter name the counter, whether or not the request then failed its checks or its post
was rejected. -/
theorem run_request_counters (args : Args) (es : List Event) (k : Counter) :
    (k.get ((Bridge.init args).run es).shared).toNat = (Bridge.init args).raisesAlong k es % 2^64 := by
  rw [Bridge.run_get, Counter.get_init, Nat.zero_add]

/-- `GET /input?type=wave`, in one `recv`. -/
def waveChunk : Chunk := ⟨lit "GET /input?type=wave HTTP/1.1\r\n\r\n", by decide, by decide⟩

/-- An `/input` of a type that `BuildInputScript` does not know is refused with 400, and counted. -/
example :
    ((Bridge.init .default).run
        [.checkRunning, .selectReady, .acceptOk, .serve [.data waveChunk] true]).shared.input_requests =
      1 ∧
      ((Bridge.init .default).run
        [.checkRunning, .selectReady, .acceptOk, .serve [.data waveChunk] true]).sent =
        [badRequest (lit "input type invalid")] :=
  ⟨rfl, rfl⟩

/-! ## The input tasks -/

/-- The arguments of a task as `/input` builds a `NativeInputTask`: a position in `[0, 2^31)`, a
delta within `int`, and no delta for a click. The other tasks carry no position. -/
def Task.InputOk : Task → Prop
  | .nativeInput kind x y delta =>
    0 ≤ x ∧ x < 2^31 ∧ 0 ≤ y ∧ y < 2^31 ∧ -2^31 ≤ delta ∧ delta < 2^31 ∧
      (kind = .mouseClick → delta = 0)
  | _ => True

/-- **The tasks of `/input`.** Every task that `/input` posts has the arguments `InputOk` says. -/
theorem serveInput_posted_ok {s : SharedState} {req : HttpRequest} {accepted : Bool} {t : Task}
    (h : (serveInput s req accepted).posted = some t) : t.InputOk := by
  simp only [serveInput] at h
  generalize parseIntDefault (getParam req (lit "x")) _ = x at h
  generalize parseIntDefault (getParam req (lit "y")) _ = y at h
  generalize parseIntDefault (getParam req (lit "delta")) _ = d at h
  -- Each posted task is an `EvalTask`, or a click or a scroll whose arguments are bounded by the
  -- `int`s they come from and by the frame's `uint32_t` size.
  have := (s.bump .inputRequests).frame_width.toNat_lt
  have := (s.bump .inputRequests).frame_height.toNat_lt
  have := x.lt
  have := y.lt
  have := d.ge
  have := d.lt
  split_ifs at h <;> simp only [postTask_posted, Option.some.injEq, reduceCtorEq] at h <;> subst h
  all_goals first
    | trivial
    | (refine ⟨?_, ?_, ?_, ?_, ?_, ?_, fun hk => ?_⟩ <;> first | omega | cases hk)

/-- Every task that the dispatch posts has the arguments `InputOk` says. -/
theorem handleRequest_posted_ok {s : SharedState} {req : HttpRequest} {accepted : Bool} {t : Task}
    (h : (handleRequest s req accepted).posted = some t) : t.InputOk := by
  unfold handleRequest at h
  split_ifs at h
  all_goals first
    | exact serveInput_posted_ok h
    | (cases serveParam_posted h; trivial)
    | (cases h; trivial)

/-- **The input tasks of a run.** In every run from the state `main` builds, every task that the
control thread has run or holds in its queue has the arguments `InputOk` says: a `NativeInputTask`
at a position in `[0, 2^31)`, with an `int` delta, and no delta for a click. -/
theorem run_input_tasks_ok (args : Args) (es : List Event) :
    ∀ t ∈ (Bridge.init args).runsAlong es ++ ((Bridge.init args).run es).queue, t.InputOk := by
  rw [← Bridge.run_queue, show (Bridge.init args).queue = [] from rfl, List.nil_append]
  intro t ht
  obtain ⟨_, _, _, -, h⟩ := Bridge.mem_postsAlong ht
  obtain ⟨_, _, -, -, ho, hp⟩ := Bridge.mem_posts h
  obtain ⟨_, _, _, -, -, hp⟩ := serveConnection_posted ho hp
  exact handleRequest_posted_ok hp

/-- `GET /input?type=scroll`, in one `recv`: a scroll with no coordinates. -/
def scrollChunk : Chunk := ⟨lit "GET /input?type=scroll HTTP/1.1\r\n\r\n", by decide, by decide⟩

/-- A scroll turn on `/input` from the state `main` builds with the default arguments. -/
def scrollRun : List Event := [.checkRunning, .selectReady, .acceptOk, .serve [.data scrollChunk] true]

/-- The scroll of `scrollRun` waits in the queue at the centre of the 1024 by 640 view, with the
default delta, and its arguments are as `InputOk` says. -/
theorem run_scroll_task_ok :
    Task.nativeInput .mouseScroll 512 320 120 ∈
        (Bridge.init .default).runsAlong scrollRun ++ ((Bridge.init .default).run scrollRun).queue ∧
      (Task.nativeInput .mouseScroll 512 320 120).InputOk :=
  ⟨by decide, run_input_tasks_ok .default scrollRun _ (by decide)⟩

end CefHostBridge
