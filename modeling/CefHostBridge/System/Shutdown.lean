import CefHostBridge.System.Delivery
import CefHostBridge.System.Listener

/-!
# How the bridge stops

Two signals say that the bridge is going down: the flag `running` of `SharedState`, which the
listener tests at the top of each round of its accept loop, and `CefQuitMessageLoop`, after which
`CefRunMessageLoop` returns to `main`. The code gives both at two places only, `QuitTask::Execute`
and `OnBeforeClose`, and `main` lowers the flag once more after its message loop has returned. So
in every run the flag is down exactly when the message loop has been told to quit, and that is
exactly when the browser has closed or a `QuitTask` has run; `main`'s last `SetRunning(false)` then
finds the flag down and changes nothing (`run_stopped_iff`).

A `/quit` request is not the stop itself: it queues a `QuitTask`. Once the control thread has run
the tasks queued before it and the `QuitTask`, the flag is down, whatever the listener did meanwhile
(`run_queued_quit_stops`); until then the listener goes on serving. The listener leaves its loop
only at a test that finds the flag down, and from then on it accepts and answers nothing
(`run_listener_exited`).

The proofs are a step lemma and a run lemma each: the step of the message loop's quit
(`Bridge.step_quitting`), the step of the flag against it (`Bridge.step_running_quitting`), and the
step of a listener out of its loop (`Bridge.step_of_exited`, `Bridge.step_exits`).
-/

namespace CefHostBridge

/-! ## The flag and the message loop -/

/-- `Execute` lowers the flag for a `QuitTask` and leaves it for the other tasks. -/
theorem Task.execute_running (browser : Bool) (s : SharedState) (t : Task) :
    (t.execute browser s).running = (s.running && !decide (t = .quit)) := by
  cases t <;> cases browser <;> simp [Task.execute] <;> rfl

/-- `SetRunning` to the value the flag has changes nothing. -/
theorem SharedState.setRunning_of_eq {s : SharedState} {r : Bool} (h : s.running = r) :
    s.setRunning r = s := by
  subst h
  rfl

/-- **The step of the message loop.** A step tells the message loop to quit when it is
`OnBeforeClose` or runs a `QuitTask`, and no step takes that back. -/
theorem Bridge.step_quitting (b : Bridge) (e : Event) :
    (b.step e).quitting = true ↔ b.quitting = true ∨ e = .beforeClose ∨ Task.quit ∈ b.runs e := by
  cases e
  case runTask =>
    cases hq : b.queue with
    | nil => simp [step, runs, hq]
    | cons t q => simp [step, runs, hq, @eq_comm _ Task.quit]
  case serve rs accepted =>
    simp only [step]
    split
    · split <;> simp [runs]
    · simp [runs]
  case beforeClose => simp [step]
  case mainExit =>
    simp only [step]
    split <;> simp [runs]
  all_goals simp only [step]; first | (split <;> simp [runs]) | simp [runs]

/-- **The step of the flag.** From a state whose flag is down exactly when the message loop has
been told to quit, every step leads to another such state. -/
theorem Bridge.step_running_quitting (b : Bridge) (e : Event) (h : b.shared.running = !b.quitting) :
    (b.step e).shared.running = !(b.step e).quitting := by
  cases e
  case serve rs accepted =>
    simp only [step]
    split
    · split
      · exact h
      · rw [serveConnection_writes ‹_›]
        exact h
    · exact h
  case runTask =>
    simp only [step]
    split
    · exact h
    · rw [Task.execute_running, h, Bool.not_or]
  case paint p => exact (b.shared.onPaint_running_counters p).1.trans h
  case beforeClose => rfl
  case mainExit =>
    simp only [step]
    split
    · simp only [SharedState.setRunning, *, Bool.not_true]
    · exact h
  all_goals first | exact h | (simp only [step]; split <;> exact h)

/-- Along a run, the message loop has been told to quit when it had been before the run, or the run
has an `OnBeforeClose`, or it has run a `QuitTask`. -/
theorem Bridge.run_quitting :
    ∀ (es : List Event) (b : Bridge), (b.run es).quitting = true ↔
      b.quitting = true ∨ Event.beforeClose ∈ es ∨ Task.quit ∈ b.runsAlong es
  | [], b => by simp [runsAlong]
  | e :: es, b => by
    rw [run_cons, run_quitting es (b.step e), step_quitting, runsAlong, List.mem_cons,
      List.mem_append, @eq_comm _ Event.beforeClose]
    tauto

/-- Along a run from a state whose flag is down exactly when the message loop has been told to quit,
that stays so. -/
theorem Bridge.run_running_quitting :
    ∀ (es : List Event) (b : Bridge),
      b.shared.running = !b.quitting → (b.run es).shared.running = !(b.run es).quitting
  | [], _, h => h
  | e :: es, b, h => run_running_quitting es (b.step e) (b.step_running_quitting e h)

/-- `main`'s last `SetRunning(false)` changes nothing in a state whose flag is down exactly when the
message loop has been told to quit. -/
theorem Bridge.step_mainExit_of (b : Bridge) (h : b.shared.running = !b.quitting) :
    b.step .mainExit = b := by
  simp only [step]
  split
  · rename_i hq
    rw [SharedState.setRunning_of_eq (by rw [h, hq]; rfl)]
  · rfl

/-- **How the bridge stops.** In every run from the state `main` builds, the flag is down exactly
when the run has an `OnBeforeClose` or has run a `QuitTask`, and exactly when the message loop has
been told to quit; so `main`'s last `SetRunning(false)` changes nothing. -/
theorem run_stopped_iff (args : Args) (es : List Event) :
    (((Bridge.init args).run es).shared.running = false ↔
      Event.beforeClose ∈ es ∨ Task.quit ∈ (Bridge.init args).runsAlong es) ∧
    ((Bridge.init args).run es).shared.running = !((Bridge.init args).run es).quitting ∧
    ((Bridge.init args).run es).step .mainExit = (Bridge.init args).run es := by
  have hinv := Bridge.run_running_quitting es (Bridge.init args) rfl
  refine ⟨?_, hinv, Bridge.step_mainExit_of _ hinv⟩
  rw [hinv, Bool.not_eq_false', Bridge.run_quitting]
  simp [Bridge.init]

/-! ## A queued quit -/

/-- A task in the queue has run once the control thread has run as many tasks as stood before it,
and one more. -/
theorem Bridge.mem_runsAlong_of_mem_queue {b : Bridge} {es : List Event} {t : Task}
    (ht : t ∈ b.queue) (hn : b.queue.indexOf t < (b.runsAlong es).length) :
    t ∈ b.runsAlong es := by
  have hi := List.indexOf_lt_length.mpr ht
  have hpre : b.queue.take (b.queue.indexOf t + 1) <+: b.runsAlong es := by
    refine List.prefix_of_prefix_length_le
      ((List.take_prefix _ _).trans (List.prefix_append _ (b.postsAlong es))) ?_ ?_
    · rw [run_queue]
      exact List.prefix_append _ _
    · rw [List.length_take]
      omega
  exact hpre.subset
    (List.mem_take_iff_getElem.mpr ⟨_, lt_min (Nat.lt_succ_self _) hi, List.getElem_indexOf hi⟩)

/-- **A queued quit stops the bridge.** In every run from the state `main` builds, a `QuitTask` in
the queue has lowered the flag once the control thread has run the tasks queued before it and the
`QuitTask` itself, whatever else the rest of the run does. -/
theorem run_queued_quit_stops (args : Args) (es es' : List Event)
    (hq : Task.quit ∈ ((Bridge.init args).run es).queue)
    (hn : ((Bridge.init args).run es).queue.indexOf Task.quit <
      (((Bridge.init args).run es).runsAlong es').length) :
    (((Bridge.init args).run es).run es').shared.running = false := by
  have hinv := Bridge.run_running_quitting (es ++ es') (Bridge.init args) rfl
  rw [Bridge.run_append] at hinv
  have hran := Bridge.mem_runsAlong_of_mem_queue hq hn
  rw [hinv, (Bridge.run_quitting es' _).mpr (.inr (.inr hran))]
  rfl

/-- A `/quit` turn, which leaves its `QuitTask` in the queue. -/
def quitQueued : List Event :=
  [.checkRunning, .selectReady, .acceptOk, .serve [.data quitChunk] true]

/-- After a `/quit` turn, the one run task is the `QuitTask`, and it lowers the flag. -/
theorem run_quitQueued_runTask :
    Task.quit ∈ ((Bridge.init .default).run quitQueued).queue ∧
      ((Bridge.init .default).run quitQueued).queue.indexOf Task.quit <
        (((Bridge.init .default).run quitQueued).runsAlong [.runTask]).length ∧
      (((Bridge.init .default).run quitQueued).run [.runTask]).shared.running = false :=
  ⟨by decide, by decide, run_queued_quit_stops .default quitQueued [.runTask] (by decide) (by decide)⟩

/-! ## The end of the accept loop -/

/-- A listener out of its loop stays out, and accepts and answers nothing. -/
theorem Bridge.step_of_exited (b : Bridge) (e : Event) (h : b.listener = .exited) :
    (b.step e).listener = .exited ∧ (b.step e).accepts = b.accepts ∧ (b.step e).sent = b.sent := by
  cases e
  case runTask | mainExit =>
    simp only [step]
    split <;> exact ⟨h, rfl, rfl⟩
  all_goals simp [step, h]

/-- The listener leaves its loop only at a test that finds the flag down, and the test writes
nothing. -/
theorem Bridge.step_exits (b : Bridge) (e : Event) (h : (b.step e).listener = .exited) :
    b.listener = .exited ∨ b.shared.running = false ∧ (b.step e).shared = b.shared := by
  cases e
  case checkRunning =>
    have hs : (b.step .checkRunning).shared = b.shared := by simp only [step]; split <;> rfl
    simp only [step] at h
    split at h
    · split at h
      · cases h
      · exact .inr ⟨Bool.eq_false_iff.mpr ‹_›, hs⟩
    · exact .inl h
  case serve rs accepted =>
    simp only [step] at h
    split at h
    · split at h
      · exact .inl h
      · cases h
    · exact .inl h
  case runTask | mainExit =>
    simp only [step] at h
    split at h <;> exact .inl h
  all_goals
    simp only [step] at h
    first | exact .inl h | (split at h <;> first | cases h | exact .inl h)

/-- Along a run from a listener out of its loop, the listener stays out and accepts and answers
nothing. -/
theorem Bridge.run_of_exited :
    ∀ (es : List Event) (b : Bridge), b.listener = .exited →
      (b.run es).listener = .exited ∧ (b.run es).accepts = b.accepts ∧ (b.run es).sent = b.sent
  | [], _, h => ⟨h, rfl, rfl⟩
  | e :: es, b, h => by
    obtain ⟨h1, h2, h3⟩ := b.step_of_exited e h
    obtain ⟨h4, h5, h6⟩ := run_of_exited es (b.step e) h1
    exact ⟨h4, h5.trans h2, h6.trans h3⟩

/-- Along a run from a state where a listener out of its loop means the flag down, that stays so. -/
theorem Bridge.run_exited_stopped :
    ∀ (es : List Event) (b : Bridge), (b.listener = .exited → b.shared.running = false) →
      (b.run es).listener = .exited → (b.run es).shared.running = false
  | [], _, h => h
  | e :: es, b, h => by
    refine run_exited_stopped es (b.step e) fun he => ?_
    rcases b.step_exits e he with hl | ⟨hr, hs⟩
    · exact Bool.eq_false_iff.mpr fun ht => by simpa [h hl] using b.step_running e ht
    · rw [hs]
      exact hr

/-- **The end of the accept loop.** In every run from the state `main` builds, the listener has left
its loop only with the flag down, and from then on it accepts and answers nothing. -/
theorem run_listener_exited (args : Args) (es es' : List Event)
    (h : ((Bridge.init args).run es).listener = .exited) :
    ((Bridge.init args).run es).shared.running = false ∧
      (((Bridge.init args).run es).run es').listener = .exited ∧
      (((Bridge.init args).run es).run es').accepts = ((Bridge.init args).run es).accepts ∧
      (((Bridge.init args).run es).run es').sent = ((Bridge.init args).run es).sent :=
  ⟨Bridge.run_exited_stopped es _ (fun h => by cases h) h, Bridge.run_of_exited es' _ h⟩

/-- After a `/quit` turn, its `QuitTask` and the next test of the flag, the listener is out of its
loop, and a `select` that finds a client ready changes nothing. -/
theorem run_quit_exited :
    ((Bridge.init .default).run (quitQueued ++ [.runTask, .checkRunning])).listener = .exited ∧
      ((Bridge.init .default).run (quitQueued ++ [.runTask, .checkRunning])).shared.running = false ∧
      (((Bridge.init .default).run (quitQueued ++ [.runTask, .checkRunning])).run
          [.selectReady, .acceptOk]).listener = .exited ∧
      (((Bridge.init .default).run (quitQueued ++ [.runTask, .checkRunning])).run
          [.selectReady, .acceptOk]).accepts =
        ((Bridge.init .default).run (quitQueued ++ [.runTask, .checkRunning])).accepts ∧
      (((Bridge.init .default).run (quitQueued ++ [.runTask, .checkRunning])).run
          [.selectReady, .acceptOk]).sent =
        ((Bridge.init .default).run (quitQueued ++ [.runTask, .checkRunning])).sent :=
  ⟨rfl, run_listener_exited .default _ [.selectReady, .acceptOk] rfl⟩

end CefHostBridge
