import CefHostBridge.System.Frame

/-!
# The flag and the counters over a run

No step of either thread sets `running` back to true: an update sets it to false or leaves it,
and `OnPaint` does not touch it. Each step raises each request counter and `frame_seq` by at
most one (`Grows`): a turn raises its route's counter only, and `OnPaint` raises `frame_seq` when
it takes the paint. The counters are `uint64_t`, so one more raise at `2^64 - 1` gives `0`; along
a run of fewer than `2^64` steps that cannot happen and no counter decreases
(`run_toNat_mono`), while `open_requests_wrap` builds the run of `2^64 - 1` rejected `/open`
turns after which the next turn drops the counter to `0`. `frame_seq` counts the taken paints
modulo `2^64`.
-/

namespace CefHostBridge

/-- `y` is `x`, or `x + 1` in `uint64_t` arithmetic. -/
def Grows (x y : UInt64) : Prop := y = x ∨ y = x + 1

/-- The `uint64_t` increment, as a number. -/
theorem uint64_toNat_add_one (x : UInt64) : (x + 1).toNat = (x.toNat + 1) % 2^64 :=
  rfl

/-- A `uint64_t` is below `2^64`. -/
theorem uint64_toNat_lt (x : UInt64) : x.toNat < 2^64 :=
  x.val.isLt

/-- Below `2^64 - 1`, growing is staying or adding one. -/
theorem Grows.toNat {x y : UInt64} (h : Grows x y) (hx : x.toNat + 1 < 2^64) :
    x.toNat ≤ y.toNat ∧ y.toNat ≤ x.toNat + 1 := by
  rcases h with rfl | rfl
  · omega
  · rw [uint64_toNat_add_one, Nat.mod_eq_of_lt hx]
    omega

/-- Adding one under a condition is growing. -/
theorem grows_ite (c : Prop) [Decidable c] (x : UInt64) : Grows x (if c then x + 1 else x) := by
  by_cases h : c
  · exact .inr (if_pos h)
  · exact .inl (if_neg h)

/-- Raising one counter grows every counter. -/
theorem Counter.grows_bump (k k' : Counter) (s : SharedState) : Grows (k.get s) (k.get (s.bump k')) := by
  rw [Counter.get_bump]
  exact grows_ite _ _

/-- The setters leave the counters alone. -/
@[simp] theorem Counter.get_setError (k : Counter) (s : SharedState) (err : Bytes) :
    k.get (s.setError err) = k.get s := by
  cases k <;> rfl

/-- An update raises each counter by at most one. -/
theorem Update.grows {s s' : SharedState} (h : Update s s') (k : Counter) :
    Grows (k.get s) (k.get s') := by
  cases h with
  | bump k' => exact k.grows_bump k' s
  | error k' err =>
    rw [Counter.get_setError]
    rcases k' with _ | k'
    · exact .inl rfl
    · exact k.grows_bump k' s
  | _ => exact .inl (by cases k <;> rfl)

/-- An update never sets `running` to true. -/
theorem Update.running_of {s s' : SharedState} (h : Update s s') (hr : s'.running = true) :
    s.running = true := by
  cases h with
  | bump k => cases k <;> exact hr
  | error k err => rcases k with _ | k; exact hr; cases k <;> exact hr
  | stop => simp [SharedState.setRunning] at hr
  | _ => exact hr

/-- `OnPaint` leaves `running` and the request counters alone. -/
theorem SharedState.onPaint_running_counters (s : SharedState) (p : Paint) :
    (s.onPaint p).running = s.running ∧ ∀ k : Counter, k.get (s.onPaint p) = k.get s := by
  unfold onPaint
  split
  · exact ⟨rfl, fun _ => rfl⟩
  · exact ⟨rfl, fun k => by cases k <;> rfl⟩

/-- `OnPaint` raises `frame_seq` exactly when it takes the paint. -/
theorem SharedState.onPaint_frame_seq (s : SharedState) (p : Paint) :
    (s.onPaint p).frame_seq = if p.valid then s.frame_seq + 1 else s.frame_seq := by
  cases hp : p.valid
  · rw [onPaint_of_not_valid s hp]
    rfl
  · rw [onPaint_of_valid s hp]
    rfl

/-! ## One step -/

/-- A step never sets `running` back to true. -/
theorem Bridge.step_running (b : Bridge) (e : Event) (hr : (b.step e).shared.running = true) :
    b.shared.running = true := by
  cases he : e.paint? with
  | none => exact (b.step_update he).running_of hr
  | some p =>
    rw [Event.eq_paint_of_paint? he, step_paint, (b.shared.onPaint_running_counters p).1] at hr
    exact hr

/-- A step raises each request counter by at most one. -/
theorem Bridge.step_grows (b : Bridge) (e : Event) (k : Counter) :
    Grows (k.get b.shared) (k.get (b.step e).shared) := by
  cases he : e.paint? with
  | none => exact (b.step_update he).grows k
  | some p =>
    rw [Event.eq_paint_of_paint? he, step_paint, (b.shared.onPaint_running_counters p).2]
    exact .inl rfl

/-- A step raises `frame_seq` by one on a taken paint, and leaves it otherwise. -/
theorem Bridge.step_frame_seq (b : Bridge) (e : Event) :
    (b.step e).shared.frame_seq =
      if e.paint?.any Paint.valid then b.shared.frame_seq + 1 else b.shared.frame_seq := by
  cases he : e.paint? with
  | none =>
    have := congrArg (fun f => f.2.2.2.1) (b.step_update he).frame_eq
    simpa using this
  | some p =>
    rw [Event.eq_paint_of_paint? he, step_paint, SharedState.onPaint_frame_seq]
    rfl

/-! ## Runs -/

/-- The number of paints of a run that `OnPaint` took. -/
def paintCount (es : List Event) : Nat := es.countP fun e => e.paint?.any Paint.valid

/-- `frame_seq` counts the taken paints of a run, modulo `2^64`. -/
theorem run_frame_seq :
    ∀ (es : List Event) (b : Bridge),
      (b.run es).shared.frame_seq.toNat = (b.shared.frame_seq.toNat + paintCount es) % 2^64
  | [], b => by
    rw [Bridge.run_nil, paintCount, List.countP_nil, Nat.add_zero, Nat.mod_eq_of_lt (uint64_toNat_lt _)]
  | e :: es, b => by
    rw [Bridge.run_cons, run_frame_seq es, Bridge.step_frame_seq]
    by_cases hv : e.paint?.any Paint.valid = true
    · simp only [hv, if_true, paintCount, List.countP_cons, uint64_toNat_add_one]
      omega
    · simp only [hv, if_false, paintCount, List.countP_cons, Bool.false_eq_true]
      omega

/-- A quantity that every step raises by at most one grows along every run that cannot reach
`2^64`, by at most the run's length. -/
theorem run_toNat_mono (f : SharedState → UInt64)
    (hf : ∀ (b : Bridge) (e : Event), Grows (f b.shared) (f (b.step e).shared)) :
    ∀ (es : List Event) (b : Bridge), (f b.shared).toNat + es.length < 2^64 →
      (f b.shared).toNat ≤ (f (b.run es).shared).toNat ∧
        (f (b.run es).shared).toNat ≤ (f b.shared).toNat + es.length
  | [], _, _ => by simp
  | e :: es, b, h => by
    have h1 := (hf b e).toNat (by simp at h; omega)
    have h2 := run_toNat_mono f hf es (b.step e) (by simp at h; omega)
    simp only [Bridge.run_cons, List.length_cons]
    omega

/-- From the state `main` builds, a quantity that starts at zero and that every step raises by at
most one does not decrease along any continuation that keeps the whole run shorter than `2^64`
steps. -/
theorem run_toNat_mono_init (args : Args) (f : SharedState → UInt64)
    (hf : ∀ (b : Bridge) (e : Event), Grows (f b.shared) (f (b.step e).shared))
    (h0 : (f (Bridge.init args).shared).toNat = 0) (es es' : List Event)
    (h : es.length + es'.length < 2^64) :
    (f ((Bridge.init args).run es).shared).toNat ≤
      (f (((Bridge.init args).run es).run es').shared).toNat := by
  -- From zero, the run `es` leaves the quantity at most `es.length`.
  have h1 := run_toNat_mono f hf es (Bridge.init args) (by omega)
  rw [h0] at h1
  exact (run_toNat_mono f hf es' _ (by omega)).1

/-- The request counters and `frame_seq` of the state `main` builds are zero. -/
theorem Counter.get_init (k : Counter) (args : Args) : (k.get (Bridge.init args).shared).toNat = 0 := by
  cases k <;> rfl

/-- A step raises `frame_seq` by at most one. -/
theorem Bridge.step_frame_seq_grows (b : Bridge) (e : Event) :
    Grows b.shared.frame_seq (b.step e).shared.frame_seq := by
  rw [step_frame_seq]
  exact grows_ite _ _

/-- **The flag and the counters along a run.** In every run from the state `main` builds, no step
sets `running` back to true; every step raises each request counter and `frame_seq` by at most one
in `uint64_t` arithmetic; `frame_seq` is the number of taken paints modulo `2^64`; and no counter
decreases along any continuation that keeps the whole run shorter than `2^64` steps. -/
theorem run_counters (args : Args) (es : List Event) :
    let b := (Bridge.init args).run es
    (∀ e, (b.step e).shared.running = true → b.shared.running = true) ∧
      (∀ e, (∀ k : Counter, Grows (k.get b.shared) (k.get (b.step e).shared)) ∧
        Grows b.shared.frame_seq (b.step e).shared.frame_seq) ∧
      b.shared.frame_seq.toNat = paintCount es % 2^64 ∧
      ∀ es', es.length + es'.length < 2^64 →
        (∀ k : Counter, (k.get b.shared).toNat ≤ (k.get (b.run es').shared).toNat) ∧
          b.shared.frame_seq.toNat ≤ (b.run es').shared.frame_seq.toNat := by
  dsimp only
  refine ⟨fun e => Bridge.step_running _ e,
    fun e => ⟨Bridge.step_grows _ e, Bridge.step_frame_seq_grows _ e⟩,
    by rw [run_frame_seq, Nat.add_comm]; rfl, fun es' h => ⟨fun k => ?_, ?_⟩⟩
  · exact run_toNat_mono_init args k.get (fun b e => b.step_grows e k) (k.get_init args) es es' h
  · exact run_toNat_mono_init args (·.frame_seq) (fun b e => b.step_frame_seq_grows e) rfl es es' h

/-! ## The wrap -/

/-- `GET /open?url=a`, in one `recv`. -/
def openChunk : Chunk := ⟨lit "GET /open?url=a HTTP/1.1\r\n\r\n", by decide, by decide⟩

/-- One turn of the accept loop on `openChunk`, whose post the queue rejects. -/
def openRound : List Event :=
  [.checkRunning, .selectReady, .acceptOk, .serve [.data openChunk] false]

/-- The turn on `openChunk` with a rejected post raises `open_requests` and sets `last_error`. -/
theorem serveConnection_openChunk (s : SharedState) :
    serveConnection s [.data openChunk] false =
      some (postTask (s.bump .openRequests) (.openUrl (lit "a")) (lit "open failed: CefPostTask error")
        (openAck (lit "a")) false) :=
  rfl

/-- From the top of the loop with `running` set, the listener tests the flag, sees the listener
ready and accepts, with the shared state untouched. -/
theorem run_accept (b : Bridge) (hl : b.listener = .check) (hr : b.shared.running = true) :
    (b.run [.checkRunning, .selectReady, .acceptOk]).listener = .serve ∧
      (b.run [.checkRunning, .selectReady, .acceptOk]).shared = b.shared := by
  simp [Bridge.step, hl, hr]

/-- The turn on `openChunk` with a rejected post raises `open_requests` and returns to the top of
the loop. -/
theorem step_serve_openChunk (b : Bridge) (hl : b.listener = .serve) :
    (b.step (.serve [.data openChunk] false)).listener = .check ∧
      (b.step (.serve [.data openChunk] false)).shared.running = b.shared.running ∧
      (b.step (.serve [.data openChunk] false)).shared.open_requests = b.shared.open_requests + 1 := by
  simp [Bridge.step, hl, serveConnection_openChunk, postTask, SharedState.setError, SharedState.bump]

/-- From the top of the loop with `running` set, a round raises `open_requests` by one and comes
back to the top. -/
theorem run_openRound (b : Bridge) (hl : b.listener = .check) (hr : b.shared.running = true) :
    (b.run openRound).listener = .check ∧ (b.run openRound).shared.running = true ∧
      (b.run openRound).shared.open_requests = b.shared.open_requests + 1 := by
  obtain ⟨hl', hs⟩ := run_accept b hl hr
  have h := step_serve_openChunk _ hl'
  rw [hs] at h
  rw [show openRound = [.checkRunning, .selectReady, .acceptOk] ++ [.serve [.data openChunk] false]
    from rfl, Bridge.run_append, Bridge.run_cons, Bridge.run_nil]
  exact ⟨h.1, h.2.1.trans hr, h.2.2⟩

/-- `n` rounds raise `open_requests` by `n` modulo `2^64`. -/
theorem run_openRounds (n : Nat) :
    ∀ b : Bridge, b.listener = .check → b.shared.running = true →
      (b.run (List.replicate n openRound).flatten).listener = .check ∧
        (b.run (List.replicate n openRound).flatten).shared.running = true ∧
        (b.run (List.replicate n openRound).flatten).shared.open_requests.toNat =
          (b.shared.open_requests.toNat + n) % 2^64 := by
  induction n with
  | zero => exact fun b hl hr => ⟨hl, hr, (Nat.mod_eq_of_lt (uint64_toNat_lt _)).symm⟩
  | succ n ih =>
    intro b hl hr
    obtain ⟨hl', hr', hc⟩ := run_openRound b hl hr
    obtain ⟨hl'', hr'', hc'⟩ := ih _ hl' hr'
    rw [List.replicate_succ, List.flatten_cons, Bridge.run_append]
    refine ⟨hl'', hr'', ?_⟩
    rw [hc', hc, uint64_toNat_add_one]
    omega

/-- The run of `2^64 - 1` rejected `/open` turns from the state `main` builds, up to the accept
of one more connection. -/
def wrapRun (args : Args) : Bridge :=
  ((Bridge.init args).run (List.replicate (2^64 - 1) openRound).flatten).run
    [.checkRunning, .selectReady, .acceptOk]

/-- **The wrap of a counter.** After `wrapRun` with the default arguments, `open_requests` is
`2^64 - 1`, and the turn on one more `/open` takes it to `0`. -/
theorem open_requests_wrap :
    (wrapRun .default).shared.open_requests.toNat = 2^64 - 1 ∧
      ((wrapRun .default).step (.serve [.data openChunk] false)).shared.open_requests.toNat = 0 := by
  obtain ⟨hl, hr, hc⟩ := run_openRounds (2^64 - 1) (Bridge.init .default) rfl rfl
  unfold wrapRun
  generalize (Bridge.init .default).run (List.replicate (2^64 - 1) openRound).flatten = B at hl hr hc ⊢
  have h0 : (Bridge.init .default).shared.open_requests.toNat = 0 := rfl
  have hB : B.shared.open_requests.toNat = 2^64 - 1 := by rw [hc, h0]; omega
  obtain ⟨hl', hs⟩ := run_accept B hl hr
  refine ⟨by rw [hs, hB], ?_⟩
  rw [(step_serve_openChunk _ hl').2.2, hs, uint64_toNat_add_one, hB]
  omega

end CefHostBridge
