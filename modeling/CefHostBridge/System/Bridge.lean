import CefHostBridge.Http.Serve

/-!
# The two threads of the bridge

The bridge runs two threads on one `SharedState`: the listener thread of `ServeHttp`, and CEF's
control thread, which runs the posted tasks in order and calls the client's handlers (`OnPaint`,
`OnTitleChange`, `OnAfterCreated`, `OnBeforeClose`) and, once its message loop has returned,
`main`'s last `SetRunning(false)`. A run of the bridge is a list of `Event`s, one for each step of
either thread, and `Bridge.step` is total: an event that its thread cannot take in the current
state leaves the state alone.

The listener thread is a program counter over the accept loop: the locked `IsRunning` test, the
`select` wait of 200 ms, `accept`, and the turn of `serveConnection` on the accepted client. Each
turn is one step: its locked accesses touch only its route's counter and `last_error`, or read the
state once, and its post reaches the queue before anything can run it, so a turn commutes with the
control thread's steps around it. The control thread's events are allowed at any time, which only
adds runs. `sent` (the responses written) and `accepts` (the connections accepted) are what a client
sees of the listener; the code keeps neither.

`step_update` says once what a step other than `OnPaint` can do to `SharedState`: the invariants of
the runs are derived from it and from `OnPaint`'s own equation.
-/

namespace CefHostBridge

/-! ## The control thread -/

/-- `PaintElementType`: the view, or a popup widget. -/
inductive PaintElementType
  | view
  | popup
  deriving DecidableEq

/-- The arguments of one `OnPaint` call that the model reads: `buffer` is `none` for a null
pointer. CEF hands over at least `4 * width * height` bytes when both are positive. -/
structure Paint where
  type : PaintElementType
  buffer : Option Bytes
  width : CInt
  height : CInt
  /-- The buffer holds the whole view. -/
  big : ∀ b, buffer = some b → 0 < width.val → 0 < height.val →
    4 * (width.val.toNat * height.val.toNat) ≤ b.length

/-- Whether `OnPaint` takes a paint: a view, a non-null buffer, and a positive size. -/
def Paint.valid (p : Paint) : Bool :=
  p.type = .view && p.buffer.isSome && 0 < p.width.val && 0 < p.height.val

/-- `ReduxBrowserClient::OnPaint`. -/
def SharedState.onPaint (s : SharedState) (p : Paint) : SharedState :=
  if p.type ≠ .view ∨ p.buffer = none ∨ p.width.val ≤ 0 ∨ p.height.val ≤ 0 then s
  else
    let bytes := p.width.val.toNat * p.height.val.toNat * 4 % 2^64
    { s with
      frame_capture := true
      frame_width := UInt32.ofNat p.width.val.toNat
      frame_height := UInt32.ofNat p.height.val.toNat
      frame_seq := s.frame_seq + 1
      frame_bgra := (p.buffer.getD []).take bytes }

/-- A paint that `OnPaint` does not take leaves the state alone. -/
theorem SharedState.onPaint_of_not_valid (s : SharedState) {p : Paint} (hp : p.valid = false) :
    s.onPaint p = s := by
  unfold onPaint
  rw [if_pos]
  cases hb : p.buffer
  · exact .inr (.inl rfl)
  · by_contra hc
    simp only [ne_eq, not_or] at hc
    have hw : 0 < p.width.val := by omega
    have hh : 0 < p.height.val := by omega
    simp [Paint.valid, hb, hc.1, hw, hh] at hp

/-- A paint that `OnPaint` takes replaces the frame fields and raises `frame_seq`. -/
theorem SharedState.onPaint_of_valid (s : SharedState) {p : Paint} (hp : p.valid = true) :
    s.onPaint p =
      { s with
        frame_capture := true
        frame_width := UInt32.ofNat p.width.val.toNat
        frame_height := UInt32.ofNat p.height.val.toNat
        frame_seq := s.frame_seq + 1
        frame_bgra := (p.buffer.getD []).take (p.width.val.toNat * p.height.val.toNat * 4 % 2^64) } := by
  simp only [Paint.valid, Bool.and_eq_true, decide_eq_true_eq, Option.isSome_iff_exists] at hp
  obtain ⟨⟨⟨ht, b, hb⟩, hw⟩, hh⟩ := hp
  have hc : ¬(p.type ≠ .view ∨ p.buffer = none ∨ p.width.val ≤ 0 ∨ p.height.val ≤ 0) := by
    simp only [ht, hb, ne_eq, not_true_eq_false, reduceCtorEq, false_or, not_or]
    omega
  unfold onPaint
  rw [if_neg hc]

/-- `Execute` of a task on the control thread, where `browser` says whether `GetGlobalBrowser()`
is set. The tasks also test `GetMainFrame()` (`/open`, `/eval`) or `GetHost()` (input), which
fail with the same message; the one flag takes the frame and the host present whenever the browser
is set. -/
def Task.execute (browser : Bool) (s : SharedState) : Task → SharedState
  | .openUrl url =>
    if browser then s.setCurrentUrl url else s.setError (lit "open failed: browser not ready")
  | .eval _ => if browser then s else s.setError (lit "eval failed: browser not ready")
  | .nativeInput .. => if browser then s else s.setError (lit "input failed: browser not ready")
  | .quit => s.setRunning false

/-! ## The system -/

/-- Where the listener thread is in `ServeHttp`'s accept loop. -/
inductive ListenerPc
  /-- Before the locked `IsRunning` test of the loop. -/
  | check
  /-- In `select`, for up to 200 ms. -/
  | select
  /-- After `select` reported the listener ready, before `accept`. -/
  | accept
  /-- With an accepted client, before the turn of `serveConnection`. -/
  | serve
  /-- Out of the loop. -/
  | exited
  deriving DecidableEq

/-- The state of the bridge after `main` has started the listener thread. -/
structure Bridge where
  shared : SharedState
  listener : ListenerPc
  /-- The tasks posted to the control thread and not yet run, oldest first. -/
  queue : List Task
  /-- Whether `g_browser` is set. -/
  browser : Bool
  /-- Whether `CefQuitMessageLoop` was called, so that `CefRunMessageLoop` returns. -/
  quitting : Bool
  /-- The responses that the listener has sent, in order. -/
  sent : List Response
  /-- The number of connections that the listener has accepted. -/
  accepts : Nat

/-- The bridge as `main` starts the listener thread. -/
def Bridge.init (args : Args) : Bridge where
  shared := SharedState.init args
  listener := .check
  queue := []
  browser := false
  quitting := false
  sent := []
  accepts := 0

/-- One step of either thread. -/
inductive Event
  /-- The listener's `while (IsRunning(state))`. -/
  | checkRunning
  /-- `select` returns without a ready listener. -/
  | selectTimeout
  /-- `select` returns with the listener ready. -/
  | selectReady
  /-- `accept` fails. -/
  | acceptFailed
  /-- `accept` returns a client. -/
  | acceptOk
  /-- The turn on the accepted client: its `recv` results, and whether `CefPostTask` accepts. -/
  | serve (rs : List Recv) (accepted : Bool)
  /-- The control thread runs the oldest posted task. -/
  | runTask
  /-- `OnPaint`. -/
  | paint (p : Paint)
  /-- `OnTitleChange`. -/
  | titleChange (title : Bytes)
  /-- `OnAfterCreated`. -/
  | afterCreated
  /-- `OnBeforeClose`. -/
  | beforeClose
  /-- `main`'s `SetRunning(state, false)` after `CefRunMessageLoop` returns. -/
  | mainExit

/-- The step of the bridge on one event. -/
def Bridge.step (b : Bridge) : Event → Bridge
  | .checkRunning =>
    if b.listener = .check then
      { b with listener := if b.shared.running then .select else .exited }
    else b
  | .selectTimeout => if b.listener = .select then { b with listener := .check } else b
  | .selectReady => if b.listener = .select then { b with listener := .accept } else b
  | .acceptFailed => if b.listener = .accept then { b with listener := .check } else b
  | .acceptOk =>
    if b.listener = .accept then { b with listener := .serve, accepts := b.accepts + 1 } else b
  | .serve rs accepted =>
    if b.listener = .serve then
      match serveConnection b.shared rs accepted with
      | none => b
      | some o =>
        { b with
          shared := o.state
          listener := .check
          queue := if accepted then b.queue ++ o.posted.toList else b.queue
          sent := b.sent ++ [o.response] }
    else b
  | .runTask =>
    match b.queue with
    | [] => b
    | t :: q =>
      { b with
        shared := t.execute b.browser b.shared
        queue := q
        quitting := b.quitting || t = .quit }
  | .paint p => { b with shared := b.shared.onPaint p }
  | .titleChange title => { b with shared := b.shared.setTitle title }
  | .afterCreated => { b with browser := true }
  | .beforeClose => { b with shared := b.shared.setRunning false, browser := false, quitting := true }
  | .mainExit => if b.quitting then { b with shared := b.shared.setRunning false } else b

/-- The bridge after the events `es`, in order. -/
def Bridge.run (b : Bridge) (es : List Event) : Bridge := es.foldl Bridge.step b

@[simp] theorem Bridge.run_nil (b : Bridge) : b.run [] = b := rfl

@[simp] theorem Bridge.run_cons (b : Bridge) (e : Event) (es : List Event) :
    b.run (e :: es) = (b.step e).run es := rfl

theorem Bridge.run_append (b : Bridge) (es es' : List Event) :
    b.run (es ++ es') = (b.run es).run es' :=
  List.foldl_append _ _ _ _

/-! ## What a step does to the shared state -/

/-- The paint of an `OnPaint` event. -/
def Event.paint? : Event → Option Paint
  | .paint p => some p
  | _ => none

/-- What a step other than `OnPaint` can do to `SharedState`: nothing; raise one counter; raise a
route's counter, if it has one, and set `last_error`; set the current url or the title; or set
`running` to false. -/
inductive Update (s : SharedState) : SharedState → Prop
  | keep : Update s s
  | bump (k : Counter) : Update s (s.bump k)
  | error (k : Option Counter) (err : Bytes) : Update s ((s.bumpRoute k).setError err)
  | url (url : Bytes) : Update s (s.setCurrentUrl url)
  | title (title : Bytes) : Update s (s.setTitle title)
  | stop : Update s (s.setRunning false)

/-- A turn in the frame of its route is an update. -/
theorem TurnFrame.update {s : SharedState} {k : Option Counter} {accepted : Bool} {o : Outcome}
    (h : TurnFrame s k accepted o) : Update s o.state := by
  obtain ⟨-, h⟩ | ⟨-, -, -, h⟩ | ⟨-, ⟨-, h⟩ | ⟨-, -, err, -, h⟩⟩ := h <;> rw [h]
  · exact .keep
  · exact .bump _
  · cases k
    · exact .keep
    · exact .bump _
  · exact .error k err

/-- Every turn of the listener on a connection is an update. -/
theorem serveConnection_update {s : SharedState} {rs : List Recv} {accepted : Bool} {o : Outcome}
    (h : serveConnection s rs accepted = some o) : Update s o.state := by
  unfold serveConnection at h
  split at h
  · cases h
  · cases h
    exact .keep
  · cases h
    unfold serveRequest
    cases parseHttpRequest _ with
    | none => exact .keep
    | some req => exact (handleRequest_frame _ req _).update

/-- A turn in the frame of its route writes only the request counters and `last_error`. -/
theorem TurnFrame.writes {s : SharedState} {k : Option Counter} {accepted : Bool} {o : Outcome}
    (h : TurnFrame s k accepted o) :
    o.state = { s with
      open_requests := o.state.open_requests
      eval_requests := o.state.eval_requests
      input_requests := o.state.input_requests
      last_error := o.state.last_error } := by
  obtain ⟨-, h⟩ | ⟨-, -, -, h⟩ | ⟨-, ⟨-, h⟩ | ⟨-, -, err, -, h⟩⟩ := h <;> rw [h]
  all_goals first | rfl | (cases k with | none => rfl | some k => cases k <;> rfl)

/-- **The frame of a turn.** A turn of the listener writes only the request counters and
`last_error`; the flag, the url, the title and the frame stay as they were. -/
theorem serveConnection_writes {s : SharedState} {rs : List Recv} {accepted : Bool} {o : Outcome}
    (h : serveConnection s rs accepted = some o) :
    o.state = { s with
      open_requests := o.state.open_requests
      eval_requests := o.state.eval_requests
      input_requests := o.state.input_requests
      last_error := o.state.last_error } := by
  unfold serveConnection at h
  split at h
  · cases h
  · cases h
    rfl
  · cases h
    unfold serveRequest
    cases parseHttpRequest _ with
    | none => rfl
    | some req => exact (handleRequest_frame _ req _).writes

/-- Running a task is an update. -/
theorem Task.execute_update (browser : Bool) (s : SharedState) (t : Task) :
    Update s (t.execute browser s) := by
  cases t <;> cases browser
  case openUrl.true => exact .url _
  case quit.false | quit.true => exact .stop
  all_goals first | exact .keep | exact .error none _

/-- **What a step does.** Every step but `OnPaint` is an update of the shared state. -/
theorem Bridge.step_update (b : Bridge) {e : Event} (he : e.paint? = none) :
    Update b.shared (b.step e).shared := by
  cases e
  case serve rs accepted =>
    simp only [step]
    split
    · split
      · exact .keep
      · exact serveConnection_update ‹_›
    · exact .keep
  case runTask =>
    simp only [step]
    split
    · exact .keep
    · exact Task.execute_update _ _ _
  case paint => simp [Event.paint?] at he
  case titleChange title => exact .title title
  case beforeClose => exact .stop
  case mainExit =>
    simp only [step]
    split
    · exact .stop
    · exact .keep
  all_goals first | exact .keep | (simp only [step]; split <;> exact .keep)

/-- `OnPaint` is the step of a paint event. -/
@[simp] theorem Bridge.step_paint (b : Bridge) (p : Paint) :
    (b.step (.paint p)).shared = b.shared.onPaint p :=
  rfl

end CefHostBridge
