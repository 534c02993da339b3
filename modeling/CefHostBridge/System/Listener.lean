import CefHostBridge.System.Counters

/-!
# The listener against the stop of the flag

The accept loop tests `running` once per round, under the lock, and then waits in `select` for up
to 200 ms before it accepts. The control thread can set the flag to false inside that window, so
the listener can still accept one connection and serve it after the flag is down
(`run_accept_after_quit`: a `/quit` turn, the next round's test, the `QuitTask`, then an accept and
a served `/status`).

That window is the only slack. `run_after_stop` bounds what follows a stop, in every run and at
every point where the flag is false: at most one more accepted connection and at most one more
response, and only for the connection of the round whose test passed before the flag went down.
The proof is a potential argument: a listener that has tested the flag and not yet accepted holds
one accept and one response in hand (`acceptCredit`, `serveCredit`), one that has accepted holds
one response, and no step adds to accepts and potential together (`Bridge.step_credit`), because
the flag stays down (`Bridge.step_stopped`) and the next test leaves the loop
(`Bridge.checkRunning_exits`).
-/

namespace CefHostBridge

/-- The accepts a listener at `pc` may still make once the flag is down. -/
def acceptCredit : ListenerPc → Nat
  | .select | .accept => 1
  | _ => 0

/-- The responses a listener at `pc` may still send once the flag is down. -/
def serveCredit : ListenerPc → Nat
  | .select | .accept | .serve => 1
  | _ => 0

/-- With the flag down, a step leaves it down. -/
theorem Bridge.step_stopped (b : Bridge) (e : Event) (hr : b.shared.running = false) :
    (b.step e).shared.running = false :=
  Bool.eq_false_iff.mpr fun ht => by simpa [hr] using b.step_running e ht

/-- Along a run, the flag once down stays down. -/
theorem Bridge.run_stopped :
    ∀ (es : List Event) (b : Bridge), b.shared.running = false → (b.run es).shared.running = false
  | [], _, hr => hr
  | e :: es, b, hr => run_stopped es (b.step e) (b.step_stopped e hr)

/-- **The test that leaves the loop.** A test of the flag that finds it down moves the listener
out of its loop. -/
theorem Bridge.checkRunning_exits (b : Bridge) (hl : b.listener = .check)
    (hr : b.shared.running = false) : (b.step .checkRunning).listener = .exited := by
  simp [step, hl, hr]

/-- **The step of the potential.** With the flag down, no step raises accepts plus accept credit,
or responses plus response credit. -/
theorem Bridge.step_credit (b : Bridge) (e : Event) (hr : b.shared.running = false) :
    (b.step e).accepts + acceptCredit (b.step e).listener ≤ b.accepts + acceptCredit b.listener ∧
      (b.step e).sent.length + serveCredit (b.step e).listener ≤
        b.sent.length + serveCredit b.listener := by
  cases e
  case serve rs accepted =>
    simp only [step]
    split
    next hl =>
      split
      · exact ⟨le_rfl, le_rfl⟩
      · simp only [hl, acceptCredit, serveCredit, List.length_append, List.length_singleton]
        omega
    · exact ⟨le_rfl, le_rfl⟩
  case runTask | mainExit =>
    simp only [step]
    split <;> exact ⟨le_rfl, le_rfl⟩
  case paint | titleChange | afterCreated | beforeClose => exact ⟨le_rfl, le_rfl⟩
  all_goals
    simp only [step]
    split
    · rename_i hl
      simp only [hl, hr, acceptCredit, serveCredit, Bool.false_eq_true, ↓reduceIte]
      omega
    · exact ⟨le_rfl, le_rfl⟩

/-- Along a run from a state with the flag down, accepts plus accept credit, and responses plus
response credit, never grow. -/
theorem Bridge.run_credit :
    ∀ (es : List Event) (b : Bridge), b.shared.running = false →
      (b.run es).accepts + acceptCredit (b.run es).listener ≤ b.accepts + acceptCredit b.listener ∧
        (b.run es).sent.length + serveCredit (b.run es).listener ≤
          b.sent.length + serveCredit b.listener
  | [], _, _ => ⟨le_rfl, le_rfl⟩
  | e :: es, b, hr => by
    obtain ⟨h1, h2⟩ := b.step_credit e hr
    obtain ⟨h3, h4⟩ := run_credit es (b.step e) (b.step_stopped e hr)
    exact ⟨h3.trans h1, h4.trans h2⟩

/-! ## The window between the test and the accept -/

/-- `GET /quit`, in one `recv`. -/
def quitChunk : Chunk := ⟨lit "GET /quit HTTP/1.1\r\n\r\n", by decide, by decide⟩

/-- `GET /status`, in one `recv`. -/
def statusChunk : Chunk := ⟨lit "GET /status HTTP/1.1\r\n\r\n", by decide, by decide⟩

/-- A `/quit` turn, the next round's test of the flag and `select`, and then the `QuitTask` on the
control thread. -/
def quitBeforeAccept : List Event :=
  [.checkRunning, .selectReady, .acceptOk, .serve [.data quitChunk] true,
    .checkRunning, .selectReady, .runTask]

/-- From the state `main` builds with the default arguments: after `quitBeforeAccept` the flag is
down and the listener is about to accept; it accepts a second connection and answers its `/status`
with 200. -/
theorem run_accept_after_quit :
    ((Bridge.init .default).run quitBeforeAccept).shared.running = false ∧
      ((Bridge.init .default).run quitBeforeAccept).listener = .accept ∧
      ((Bridge.init .default).run quitBeforeAccept).accepts = 1 ∧
      ((Bridge.init .default).run
          (quitBeforeAccept ++ [.acceptOk, .serve [.data statusChunk] true])).accepts = 2 ∧
      ((Bridge.init .default).run
          (quitBeforeAccept ++ [.acceptOk, .serve [.data statusChunk] true])).sent =
        [⟨200, json, queuedJson (lit "quit")⟩,
          ⟨200, json, buildStatusJson ((Bridge.init .default).run quitBeforeAccept).shared⟩] :=
  ⟨rfl, rfl, rfl, rfl, rfl⟩

/-- **After the stop.** In every run from the state `main` builds, once `running` is false the
rest of the run accepts at most `acceptCredit` more connections and sends at most `serveCredit`
more responses, each zero or one: one accept only when the listener has passed
its test of the flag and not yet accepted, and one response only when it has not yet served that
round's connection. Every test of the flag from then on leaves the loop. -/
theorem run_after_stop (args : Args) (es es' : List Event)
    (hstop : ((Bridge.init args).run es).shared.running = false) :
    (((Bridge.init args).run es).run es').accepts ≤
        ((Bridge.init args).run es).accepts + acceptCredit ((Bridge.init args).run es).listener ∧
      (((Bridge.init args).run es).run es').sent.length ≤
        ((Bridge.init args).run es).sent.length + serveCredit ((Bridge.init args).run es).listener ∧
      ((((Bridge.init args).run es).run es').listener = .check →
        ((((Bridge.init args).run es).run es').step .checkRunning).listener = .exited) := by
  obtain ⟨h1, h2⟩ := Bridge.run_credit es' _ hstop
  exact ⟨by omega, by omega, fun hl => Bridge.checkRunning_exits _ hl (Bridge.run_stopped es' _ hstop)⟩

/-- After `quitBeforeAccept` the flag is down with the listener about to accept: the accept and the
`/status` turn that follow are the one more of each that the bound allows, and the next test of the
flag leaves the loop. -/
theorem run_after_stop_quit :
    ((Bridge.init .default).run quitBeforeAccept).shared.running = false ∧
      ((((Bridge.init .default).run quitBeforeAccept).run
          [.acceptOk, .serve [.data statusChunk] true]).accepts ≤
        ((Bridge.init .default).run quitBeforeAccept).accepts +
          acceptCredit ((Bridge.init .default).run quitBeforeAccept).listener ∧
      (((Bridge.init .default).run quitBeforeAccept).run
          [.acceptOk, .serve [.data statusChunk] true]).sent.length ≤
        ((Bridge.init .default).run quitBeforeAccept).sent.length +
          serveCredit ((Bridge.init .default).run quitBeforeAccept).listener ∧
      ((((Bridge.init .default).run quitBeforeAccept).run
          [.acceptOk, .serve [.data statusChunk] true]).listener = .check →
        ((((Bridge.init .default).run quitBeforeAccept).run
          [.acceptOk, .serve [.data statusChunk] true]).step .checkRunning).listener = .exited)) :=
  ⟨rfl, run_after_stop .default quitBeforeAccept _ rfl⟩

end CefHostBridge
