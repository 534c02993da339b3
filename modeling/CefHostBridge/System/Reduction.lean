import CefHostBridge.System.Turn
import CefHostBridge.System.Frame

/-!
# The turns are atomic

`Bridge` takes a turn of the listener as one step. `Fine` is the bridge of the source: a turn is
its locked accesses (`Turn`), one step each, and the control thread's steps may fall between any
two of them. `fine_reach_iff` shows that the two models reach the same states between turns, so
that every property of the runs of `Bridge` holds of the runs of the source.

One direction runs the accesses of each turn in a row (`Fine.run_accesses`). The other is Lipton's
reduction: a control step inside a turn is moved before the turn when it commutes with the
accesses done so far, and deferred past the turn when it commutes with those still to come, and
each step is one of the two. Before the turn has read, posted or set an error, it has only raised
its counter, which no control step touches, so every control step moves before it; after the read
of the frame size, a paint is deferred (it commutes with the post and with `SetError`) and every
other control step still moves before (none of them touches the frame size); once the turn has
read the status or the frame, had its task taken, or set its error, only the answer is left, and
every control step is deferred. `OpenTurn` and `DoneTurn` are these two phases of a turn, against
the reachable state of `Bridge` where the turn is about to be taken; `Fine.inv_step` is the step
of the simulation.

`accepted`, what `CefPostTask` answers, is an oracle: fixing it when the turn starts rather than
when it posts changes no run, because the turn posts at most once and the answer does not depend
on the state.
-/

namespace CefHostBridge

/-! ## The bridge with the locks of a turn -/

/-- The listener's step that `Fine` replaces by the accesses of a turn. -/
def Event.isServe : Event → Bool
  | .serve _ _ => true
  | _ => false

/-- The steps of the control thread and the end of `main`: those that may fall inside a turn. -/
def Event.control : Event → Bool
  | .runTask | .paint _ | .titleChange _ | .afterCreated | .beforeClose | .mainExit => true
  | _ => false

/-- A step of the bridge where each locked block of a turn is its own step. -/
inductive FineEvent
  /-- A step of `Bridge` other than a turn: the listener's loop between turns, or a step of the
  control thread, which may fall between any two accesses of a turn. -/
  | other (e : Event)
  /-- `ReadHttpRequest` and `ParseHttpRequest` on the accepted client, which touch nothing
  shared, and what `CefPostTask` answers the turn. -/
  | start (rs : List Recv) (accepted : Bool)
  /-- The next access of the turn in progress. -/
  | access

/-- The bridge where a turn is a sequence of accesses. -/
structure Fine where
  bridge : Bridge
  /-- The rest of the turn in progress, and what `CefPostTask` answers it. -/
  turn : Option (Turn × Bool)

/-- One step of either thread. -/
def Fine.step (f : Fine) : FineEvent → Fine
  | .other e => if e.isServe then f else { f with bridge := f.bridge.step e }
  | .start rs accepted =>
    match f.turn, connectionTurn rs with
    | none, some t => if f.bridge.listener = .serve then ⟨f.bridge, some (t, accepted)⟩ else f
    | _, _ => f
  | .access =>
    match f.turn with
    | none => f
    | some (t, accepted) =>
      match t.access accepted f.bridge with
      | (b, none) => ⟨b, none⟩
      | (b, some t') => ⟨b, some (t', accepted)⟩

/-- The fine bridge after the steps `es`, in order. -/
def Fine.run (f : Fine) (es : List FineEvent) : Fine := es.foldl Fine.step f

@[simp] theorem Fine.run_nil (f : Fine) : f.run [] = f := rfl

@[simp] theorem Fine.run_cons (f : Fine) (e : FineEvent) (es : List FineEvent) :
    f.run (e :: es) = (f.step e).run es := rfl

theorem Fine.run_append (f : Fine) (es es' : List FineEvent) :
    f.run (es ++ es') = (f.run es).run es' :=
  List.foldl_append _ _ _ _

/-! ## The atomic turns are fine runs -/

/-- The number of accesses of a turn, run in a row. -/
def Turn.depth (accepted : Bool) : Turn → Bridge → Nat
  | .respond _, _ => 1
  | .bump k next, b => next.depth accepted (b.write (·.bump k)) + 1
  | .readStatus next, b => (next (buildStatusJson b.shared)).depth accepted b + 1
  | .readFrame next, b =>
    (next b.shared.frame_width b.shared.frame_height b.shared.frame_bgra).depth accepted b + 1
  | .readSize next, b => (next b.shared.frame_width b.shared.frame_height).depth accepted b + 1
  | .post task next onReject, b =>
    (if accepted then next.depth accepted (b.enqueue task) else onReject.depth accepted b) + 1
  | .setError err next, b => next.depth accepted (b.write (·.setError err)) + 1

/-- The accesses of a turn, one after the other, finish it. -/
theorem Fine.run_accesses (accepted : Bool) :
    ∀ (t : Turn) (b : Bridge),
      (Fine.mk b (some (t, accepted))).run (List.replicate (t.depth accepted b) .access) =
        ⟨t.finish accepted b, none⟩
  | .respond _, _ => rfl
  | .bump k next, b => Fine.run_accesses accepted next _
  | .readStatus next, b => Fine.run_accesses accepted (next (buildStatusJson b.shared)) b
  | .readFrame next, b =>
    Fine.run_accesses accepted (next b.shared.frame_width b.shared.frame_height b.shared.frame_bgra) b
  | .readSize next, b => Fine.run_accesses accepted (next b.shared.frame_width b.shared.frame_height) b
  | .post task next onReject, b => by
    cases accepted
    · exact Fine.run_accesses false onReject b
    · exact Fine.run_accesses true next _
  | .setError err next, b => Fine.run_accesses accepted next _

/-- Every step of `Bridge` is a run of `Fine` between turns. -/
theorem Fine.step_of_atomic (b : Bridge) (e : Event) :
    ∃ es, (Fine.mk b none).run es = ⟨b.step e, none⟩ := by
  cases hs : e.isServe
  · exact ⟨[.other e], by simp only [Fine.run_cons, Fine.step, hs, Bool.false_eq_true, if_false]; rfl⟩
  obtain ⟨rs, accepted, rfl⟩ : ∃ rs accepted, e = .serve rs accepted := by
    cases e <;> simp only [Event.isServe, Bool.false_eq_true] at hs
    exact ⟨_, _, rfl⟩
  cases ht : connectionTurn rs with
  | none => exact ⟨[], by rw [connectionTurn_none ht]; rfl⟩
  | some t =>
    by_cases hl : b.listener = .serve
    · refine ⟨.start rs accepted :: List.replicate (t.depth accepted b) .access, ?_⟩
      rw [Fine.run_cons, ← connectionTurn_finish hl ht accepted, ← Fine.run_accesses]
      simp only [Fine.step, ht, if_pos hl]
    · refine ⟨[], ?_⟩
      simp only [Bridge.step, if_neg hl, Fine.run_nil]

/-- Every run of `Bridge` is a run of `Fine` between turns. -/
theorem Fine.run_of_atomic : ∀ (es : List Event) (b : Bridge),
    ∃ fes, (Fine.mk b none).run fes = ⟨b.run es, none⟩
  | [], b => ⟨[], rfl⟩
  | e :: es, b => by
    obtain ⟨fe, hfe⟩ := Fine.step_of_atomic b e
    obtain ⟨fes, hfes⟩ := Fine.run_of_atomic es (b.step e)
    exact ⟨fe ++ fes, by rw [Fine.run_append, hfe, hfes, Bridge.run_cons]⟩

/-! ## What commutes with what -/

/-- The counters of the turn raised so far. -/
def SharedState.bumps (s : SharedState) (ks : List Counter) : SharedState := ks.foldl SharedState.bump s

/-- `Task.execute` writes no counter. -/
theorem Task.execute_bump (t : Task) (browser : Bool) (s : SharedState) (k : Counter) :
    t.execute browser (s.bump k) = (t.execute browser s).bump k := by
  cases t <;> cases browser <;> cases k <;> rfl

/-- `OnPaint` writes no counter. -/
theorem SharedState.onPaint_bump (s : SharedState) (p : Paint) (k : Counter) :
    (s.bump k).onPaint p = (s.onPaint p).bump k := by
  unfold SharedState.onPaint
  cases k <;> split <;> rfl

/-- `OnPaint` writes no `last_error`. -/
theorem SharedState.onPaint_setError (s : SharedState) (p : Paint) (err : Bytes) :
    (s.setError err).onPaint p = (s.onPaint p).setError err := by
  unfold SharedState.onPaint
  split <;> rfl

/-- `Task.execute` writes no frame field. -/
theorem Task.execute_onPaint (t : Task) (browser : Bool) (s : SharedState) (p : Paint) :
    t.execute browser (s.onPaint p) = (t.execute browser s).onPaint p := by
  unfold SharedState.onPaint
  cases t <;> cases browser <;> split <;> rfl

/-- A control step and a raised counter commute. -/
theorem Bridge.step_bump {e : Event} (he : e.control) (b : Bridge) (k : Counter) :
    (b.write (·.bump k)).step e = (b.step e).write (·.bump k) := by
  cases e <;> simp only [Event.control, Bool.false_eq_true] at he
  case runTask =>
    simp only [Bridge.step, Bridge.write]
    split <;> simp [Task.execute_bump]
  case paint p => simp [Bridge.step, Bridge.write, SharedState.onPaint_bump]
  case mainExit =>
    simp only [Bridge.step, Bridge.write]
    split <;> cases k <;> rfl
  all_goals cases k <;> rfl

/-- A control step and the counters of a turn commute. -/
theorem Bridge.step_bumps {e : Event} (he : e.control) :
    ∀ (ks : List Counter) (b : Bridge),
      (b.write (·.bumps ks)).step e = (b.step e).write (·.bumps ks)
  | [], _ => rfl
  | k :: ks, b => by
    have h := Bridge.step_bumps he ks (b.write (·.bump k))
    rw [Bridge.step_bump he] at h
    exact h

/-- A paint and another control step commute. -/
theorem Bridge.step_paint_comm {e : Event} (he : e.control) (hp : e.paint? = none) (b : Bridge)
    (p : Paint) : ((b.step (.paint p)).step e) = (b.step e).step (.paint p) := by
  cases e <;> simp only [Event.control, Event.paint?, Bool.false_eq_true, reduceCtorEq] at he hp
  case runTask =>
    simp only [Bridge.step]
    split <;> simp [Task.execute_onPaint]
  case titleChange title =>
    simp only [Bridge.step, SharedState.setTitle, SharedState.onPaint]
    split <;> rfl
  case beforeClose =>
    simp only [Bridge.step, SharedState.setRunning, SharedState.onPaint]
    split <;> rfl
  case mainExit =>
    simp only [Bridge.step]
    split
    · simp only [SharedState.setRunning, SharedState.onPaint]
      split <;> rfl
    · rfl
  all_goals rfl

/-- The paints of a list of paints. -/
def paints (ps : List Paint) : List Event := ps.map .paint

/-- A control step other than a paint moves before deferred paints. -/
theorem Bridge.step_run_paints {e : Event} (he : e.control) (hp : e.paint? = none) :
    ∀ (ps : List Paint) (b : Bridge), (b.run (paints ps)).step e = (b.step e).run (paints ps)
  | [], _ => rfl
  | p :: ps, b => by
    show ((b.step (.paint p)).run (paints ps)).step e = ((b.step e).step (.paint p)).run (paints ps)
    rw [Bridge.step_run_paints he hp ps, Bridge.step_paint_comm he hp]

/-- A write that commutes with `OnPaint` moves before deferred paints. -/
theorem Bridge.write_run_paints {f : SharedState → SharedState}
    (hf : ∀ s p, f (s.onPaint p) = (f s).onPaint p) :
    ∀ (ps : List Paint) (b : Bridge), (b.run (paints ps)).write f = (b.write f).run (paints ps)
  | [], _ => rfl
  | p :: ps, b => by
    show ((b.step (.paint p)).run (paints ps)).write f = ((b.write f).step (.paint p)).run (paints ps)
    rw [Bridge.write_run_paints hf ps]
    simp only [Bridge.write, Bridge.step, hf]

/-- A post that the queue takes moves before deferred paints. -/
theorem Bridge.enqueue_run_paints (task : Task) :
    ∀ (ps : List Paint) (b : Bridge), (b.run (paints ps)).enqueue task = (b.enqueue task).run (paints ps)
  | [], _ => rfl
  | p :: ps, b => Bridge.enqueue_run_paints task ps (b.step (.paint p))

/-- The answer moves before deferred control steps: none of them touches the listener or the
responses. -/
theorem Bridge.respond_run (r : Response) :
    ∀ (cs : List Event), (∀ e ∈ cs, e.control) →
      ∀ b : Bridge, (b.run cs).respond r = (b.respond r).run cs
  | [], _, _ => rfl
  | e :: cs, hc, b => by
    have he := hc e (List.mem_cons_self _ _)
    rw [Bridge.run_cons, Bridge.respond_run r cs (fun e' h => hc e' (List.mem_cons_of_mem _ h)),
      Bridge.run_cons]
    congr 1
    cases e <;> simp only [Event.control, Bool.false_eq_true] at he
    case runTask =>
      simp only [Bridge.step, Bridge.respond]
      split <;> rfl
    case mainExit =>
      simp only [Bridge.step, Bridge.respond]
      split <;> rfl
    all_goals rfl

/-- A control step leaves the listener where it is. -/
theorem Bridge.step_listener {e : Event} (he : e.control) (b : Bridge) :
    (b.step e).listener = b.listener := by
  cases e <;> simp only [Event.control, Bool.false_eq_true] at he
  case runTask =>
    simp only [Bridge.step]
    split <;> rfl
  case mainExit =>
    simp only [Bridge.step]
    split <;> rfl
  all_goals rfl

/-- So do control steps in a row. -/
theorem Bridge.run_listener : ∀ {cs : List Event}, (∀ e ∈ cs, e.control) →
    ∀ b : Bridge, (b.run cs).listener = b.listener
  | [], _, _ => rfl
  | e :: cs, hc, b => by
    rw [Bridge.run_cons, Bridge.run_listener (fun e' h => hc e' (List.mem_cons_of_mem _ h)),
      Bridge.step_listener (hc e (List.mem_cons_self _ _))]

/-- Paints are control steps. -/
theorem paints_control (ps : List Paint) : ∀ e ∈ paints ps, e.control := by
  intro e he
  obtain ⟨p, -, rfl⟩ := List.mem_map.mp he
  rfl

/-- A step of the listener's loop is idle while a turn is in progress. -/
theorem Bridge.step_of_serve {e : Event} (hc : e.control = false) (hs : e.isServe = false)
    {b : Bridge} (hl : b.listener = .serve) : b.step e = b := by
  cases e <;> simp only [Event.control, Event.isServe, Bool.false_eq_true, Bool.true_eq_false] at hc hs <;> simp [Bridge.step, hl]

/-- A control step other than a paint leaves the frame size alone. -/
theorem Bridge.step_frame_size {e : Event} (hp : e.paint? = none) (b : Bridge) :
    (b.step e).shared.frame_width = b.shared.frame_width ∧
      (b.step e).shared.frame_height = b.shared.frame_height := by
  have h := (Bridge.step_update b hp).frame_eq
  simp only [SharedState.frame, Prod.mk.injEq] at h
  exact ⟨h.2.1, h.2.2.1⟩

/-- The counters leave the frame size alone. -/
theorem SharedState.bumps_frame_size : ∀ (ks : List Counter) (s : SharedState),
    (s.bumps ks).frame_width = s.frame_width ∧ (s.bumps ks).frame_height = s.frame_height
  | [], _ => ⟨rfl, rfl⟩
  | k :: ks, s => by
    have h := SharedState.bumps_frame_size ks (s.bump k)
    cases k <;> exact h

/-- One more counter raised. -/
theorem Bridge.write_bumps_append (x : Bridge) (ks : List Counter) (k : Counter) :
    (x.write (·.bumps ks)).write (·.bump k) = x.write (·.bumps (ks ++ [k])) := by
  simp only [Bridge.write, SharedState.bumps, List.foldl_append, List.foldl_cons, List.foldl_nil]

/-! ## The simulation -/

/-- The states of `Bridge` that a run from `b₀` reaches. -/
def Reach (b₀ b : Bridge) : Prop := ∃ es, b₀.run es = b

/-- A step keeps a state reachable. -/
theorem Reach.step {b₀ b : Bridge} (h : Reach b₀ b) (e : Event) : Reach b₀ (b.step e) := by
  obtain ⟨es, rfl⟩ := h
  exact ⟨es ++ [e], by rw [Bridge.run_append]; rfl⟩

/-- So do steps in a row. -/
theorem Reach.run {b₀ b : Bridge} (h : Reach b₀ b) (es : List Event) : Reach b₀ (b.run es) := by
  obtain ⟨es', rfl⟩ := h
  exact ⟨es' ++ es, Bridge.run_append _ _ _⟩

/-- A turn before its commit, against the state `a` of `Bridge` where the turn is about to be
taken: it has raised the counters `ks`, and read the frame size if `sized`, after which the paints
`ps` came and are deferred; from every state with the listener in the turn (and, once the size is
read, the same size as `a`) the rest finishes the atomic turn. -/
def OpenTurn (rs : List Recv) (accepted : Bool) (a : Bridge) (t : Turn) (b : Bridge) : Prop :=
  ∃ (ks : List Counter) (sized : Bool) (ps : List Paint),
    a.listener = .serve ∧ b = (a.write (·.bumps ks)).run (paints ps) ∧ (sized = false → ps = []) ∧
    t.Wf sized ∧
    ∀ x : Bridge, x.listener = .serve →
      (sized = true → x.shared.frame_width = a.shared.frame_width ∧
        x.shared.frame_height = a.shared.frame_height) →
      t.finish accepted (x.write (·.bumps ks)) = x.step (.serve rs accepted)

/-- A turn after its commit: only the answer `r` is left, the bridge `c` with it is the atomic
turn from `a`, and the control steps `cs` that came since are deferred. -/
def DoneTurn (rs : List Recv) (accepted : Bool) (a : Bridge) (t : Turn) (b : Bridge) : Prop :=
  ∃ (r : Response) (c : Bridge) (cs : List Event),
    t = .respond r ∧ c.listener = .serve ∧ (∀ e ∈ cs, e.control) ∧ b = c.run cs ∧
      c.respond r = a.step (.serve rs accepted)

/-- The simulation: between turns the fine bridge is a reachable state of `Bridge`; inside a turn
it stands to one as `OpenTurn` or `DoneTurn` says. -/
def Fine.Inv (b₀ : Bridge) (f : Fine) : Prop :=
  match f.turn with
  | none => Reach b₀ f.bridge
  | some (t, accepted) =>
    ∃ a rs, Reach b₀ a ∧ (OpenTurn rs accepted a t f.bridge ∨ DoneTurn rs accepted a t f.bridge)

section Simulation

variable {rs : List Recv} {accepted : Bool} {a : Bridge} {t : Turn} {b : Bridge}

/-- Inside a turn the listener is in it. -/
theorem OpenTurn.listener (h : OpenTurn rs accepted a t b) : b.listener = .serve := by
  obtain ⟨ks, -, ps, ha, rfl, -⟩ := h
  rw [Bridge.run_listener (paints_control ps)]
  exact ha

/-- Inside a turn the listener is in it. -/
theorem DoneTurn.listener (h : DoneTurn rs accepted a t b) : b.listener = .serve := by
  obtain ⟨r, c, cs, -, hc, hcs, rfl, -⟩ := h
  rw [Bridge.run_listener hcs]
  exact hc

/-- A control step inside an open turn moves before it, but a paint after the read of the size,
which is deferred. -/
theorem OpenTurn.control (h : OpenTurn rs accepted a t b) {e : Event} (he : e.control) :
    OpenTurn rs accepted (a.step e) t (b.step e) ∨ OpenTurn rs accepted a t (b.step e) := by
  obtain ⟨ks, sized, ps, ha, rfl, hps, hwf, hfin⟩ := h
  cases hp : e.paint? with
  | some p =>
    obtain rfl := Event.eq_paint_of_paint? hp
    cases sized
    · -- before the read of the size the paint moves before the turn
      left
      obtain rfl := hps rfl
      exact ⟨ks, false, [], by rw [Bridge.step_listener he, ha], Bridge.step_bumps he ks a,
        fun _ => rfl, hwf, fun x hx _ => hfin x hx (fun h => absurd h (by decide))⟩
    · -- after it the paint is deferred
      right
      refine ⟨ks, true, ps ++ [p], ha, ?_, fun h => absurd h (by decide), hwf, hfin⟩
      rw [show paints (ps ++ [p]) = paints ps ++ [.paint p] from List.map_append _ _ _,
        Bridge.run_append]
      rfl
  | none =>
    left
    obtain ⟨hw, hh⟩ := Bridge.step_frame_size hp a
    refine ⟨ks, sized, ps, by rw [Bridge.step_listener he, ha], ?_, hps, hwf,
      fun x hx hs => hfin x hx fun h => ?_⟩
    · rw [Bridge.step_run_paints he hp, Bridge.step_bumps he]
    · rw [← hw, ← hh]
      exact hs h

/-- A control step after the commit is deferred. -/
theorem DoneTurn.control (h : DoneTurn rs accepted a t b) {e : Event} (he : e.control) :
    DoneTurn rs accepted a t (b.step e) := by
  obtain ⟨r, c, cs, rfl, hc, hcs, rfl, hr⟩ := h
  refine ⟨r, c, cs ++ [e], rfl, hc, fun e' h' => ?_, by rw [Bridge.run_append]; rfl, hr⟩
  rcases List.mem_append.mp h' with h' | h'
  · exact hcs e' h'
  · rw [List.mem_singleton.mp h']
    exact he

/-- The answer of a committed turn ends it in a reachable state. -/
theorem DoneTurn.reach {b₀ : Bridge} {r : Response} (hreach : Reach b₀ a)
    (h : DoneTurn rs accepted a (.respond r) b) : Reach b₀ (b.respond r) := by
  obtain ⟨r', c, cs, hr', -, hcs, rfl, hr⟩ := h
  cases hr'
  rw [Bridge.respond_run r cs hcs, hr]
  exact (hreach.step _).run cs

/-- The next access of an open turn: the answer ends the turn in a reachable state, and every
other access leaves the turn open or commits it. -/
theorem OpenTurn.access {b₀ : Bridge} (hreach : Reach b₀ a) (h : OpenTurn rs accepted a t b) :
    ((t.access accepted b).2 = none ∧ Reach b₀ (t.access accepted b).1) ∨
      ∃ t', (t.access accepted b).2 = some t' ∧
        (OpenTurn rs accepted a t' (t.access accepted b).1 ∨
          DoneTurn rs accepted a t' (t.access accepted b).1) := by
  obtain ⟨ks, sized, ps, ha, rfl, hps, hwf, hfin⟩ := h
  -- the rest of the turn finishes the atomic turn from `a` itself
  have hturn := hfin a ha fun _ => ⟨rfl, rfl⟩
  cases t with
  | respond r =>
    left
    refine ⟨rfl, ?_⟩
    show Reach b₀ (((a.write (·.bumps ks)).run (paints ps)).respond r)
    rw [Bridge.respond_run r _ (paints_control ps)]
    exact (hturn ▸ hreach.step _).run _
  | bump k next =>
    right
    refine ⟨next, rfl, .inl ⟨ks ++ [k], sized, ps, ha, ?_, hps, hwf, fun x hx hs => ?_⟩⟩
    · show ((a.write (·.bumps ks)).run (paints ps)).write (·.bump k) = _
      rw [Bridge.write_run_paints (fun s p => (SharedState.onPaint_bump s p k).symm),
        Bridge.write_bumps_append]
    · rw [← Bridge.write_bumps_append]
      exact hfin x hx hs
  | readStatus next =>
    obtain ⟨rfl, hans⟩ := hwf
    obtain rfl := hps rfl
    obtain ⟨r, hr⟩ := (hans (buildStatusJson (a.shared.bumps ks))).eq
    right
    refine ⟨_, rfl, .inr ⟨r, a.write (·.bumps ks), [], hr, ha,
      fun _ h => absurd h (List.not_mem_nil _), rfl, ?_⟩⟩
    rw [← hturn]
    show _ = (next (buildStatusJson (a.shared.bumps ks))).finish accepted _
    rw [hr]
    rfl
  | readFrame next =>
    obtain ⟨rfl, hans⟩ := hwf
    obtain rfl := hps rfl
    obtain ⟨r, hr⟩ := (hans (a.shared.bumps ks).frame_width (a.shared.bumps ks).frame_height
      (a.shared.bumps ks).frame_bgra).eq
    right
    refine ⟨_, rfl, .inr ⟨r, a.write (·.bumps ks), [], hr, ha,
      fun _ h => absurd h (List.not_mem_nil _), rfl, ?_⟩⟩
    rw [← hturn]
    show _ = (next (a.shared.bumps ks).frame_width (a.shared.bumps ks).frame_height
      (a.shared.bumps ks).frame_bgra).finish accepted _
    rw [hr]
    rfl
  | readSize next =>
    obtain ⟨rfl, hnext⟩ := hwf
    obtain rfl := hps rfl
    right
    refine ⟨_, rfl, .inl ⟨ks, true, [], ha, rfl, fun _ => rfl, hnext _ _, fun x hx hs => ?_⟩⟩
    -- the size read on `a` is the size of every `x` that the rest may start from
    obtain ⟨hw, hh⟩ := hs rfl
    obtain ⟨haw, hah⟩ := SharedState.bumps_frame_size ks a.shared
    obtain ⟨hxw, hxh⟩ := SharedState.bumps_frame_size ks x.shared
    have hx' := hfin x hx fun h => absurd h (by decide)
    show (next (a.shared.bumps ks).frame_width (a.shared.bumps ks).frame_height).finish accepted _ = _
    rw [haw, hah, ← hw, ← hh, ← hxw, ← hxh]
    exact hx'
  | post task next onReject =>
    obtain ⟨hans, hclose⟩ := hwf
    right
    cases accepted
    · refine ⟨onReject, rfl, ?_⟩
      rcases hclose.eq with ⟨r, rfl⟩ | ⟨err, r, rfl⟩
      · exact .inr ⟨r, a.write (·.bumps ks), paints ps, rfl, ha, paints_control ps, rfl, hturn⟩
      · exact .inl ⟨ks, sized, ps, ha, rfl, hps, trivial, hfin⟩
    · obtain ⟨r, rfl⟩ := hans.eq
      exact ⟨_, rfl, .inr ⟨r, (a.write (·.bumps ks)).enqueue task, paints ps, rfl, ha,
        paints_control ps, Bridge.enqueue_run_paints task ps _, hturn⟩⟩
  | setError err next =>
    obtain ⟨r, rfl⟩ := Turn.Answers.eq hwf
    right
    exact ⟨_, rfl, .inr ⟨r, (a.write (·.bumps ks)).write (·.setError err), paints ps, rfl, ha,
      paints_control ps,
      @Bridge.write_run_paints (·.setError err) (fun s p => (SharedState.onPaint_setError s p err).symm)
        ps _, hturn⟩⟩

end Simulation

/-- **The step of the simulation.** Every step of the fine bridge keeps it in the relation to a
reachable state of `Bridge`. -/
theorem Fine.inv_step {b₀ : Bridge} {f : Fine} (h : f.Inv b₀) (e : FineEvent) : (f.step e).Inv b₀ := by
  obtain ⟨b, turn⟩ := f
  cases turn with
  | none =>
    cases e with
    | other e =>
      simp only [Fine.step]
      split
      · exact h
      · exact Reach.step h e
    | start rs accepted =>
      cases ht : connectionTurn rs with
      | none => simpa only [Fine.step, ht] using h
      | some t =>
        by_cases hl : b.listener = .serve
        · simp only [Fine.step, ht, if_pos hl]
          exact ⟨b, rs, h, .inl ⟨[], false, [], hl, rfl, fun _ => rfl, connectionTurn_wf ht,
            fun x hx _ => connectionTurn_finish hx ht accepted⟩⟩
        · simpa only [Fine.step, ht, if_neg hl] using h
    | access => exact h
  | some ta =>
    obtain ⟨t, accepted⟩ := ta
    obtain ⟨a, rs, hreach, hturn⟩ := h
    have hl : b.listener = .serve := hturn.elim OpenTurn.listener DoneTurn.listener
    cases e with
    | other e =>
      cases hs : e.isServe
      case true => simpa only [Fine.step, hs, if_true] using ⟨a, rs, hreach, hturn⟩
      simp only [Fine.step, hs, Bool.false_eq_true, if_false]
      cases hc : e.control
      · -- a step of the listener's loop waits for the turn
        rw [Bridge.step_of_serve hc hs hl]
        exact ⟨a, rs, hreach, hturn⟩
      rcases hturn with hopen | hdone
      · rcases hopen.control hc with h' | h'
        · exact ⟨_, rs, hreach.step e, .inl h'⟩
        · exact ⟨a, rs, hreach, .inl h'⟩
      · exact ⟨a, rs, hreach, .inr (hdone.control hc)⟩
    | start rs' accepted' => exact ⟨a, rs, hreach, hturn⟩
    | access =>
      rcases hturn with hopen | hdone
      · simp only [Fine.step]
        rcases hopen.access hreach with ⟨hnone, hr⟩ | ⟨t', hsome, h'⟩
        · rw [show t.access accepted b = ((t.access accepted b).1, none) from Prod.ext rfl hnone]
          exact hr
        · rw [show t.access accepted b = ((t.access accepted b).1, some t') from Prod.ext rfl hsome]
          exact ⟨a, rs, hreach, h'⟩
      · obtain ⟨r, -, -, rfl, -⟩ := id hdone
        exact hdone.reach hreach

/-- The simulation holds along every run. -/
theorem Fine.inv_run {b₀ : Bridge} : ∀ (es : List FineEvent) (f : Fine), f.Inv b₀ → (f.run es).Inv b₀
  | [], _, h => h
  | e :: es, f, h => Fine.inv_run es (f.step e) (Fine.inv_step h e)

/-- **The locks of a turn change nothing.** From any state of the bridge, the runs of `Fine`, where
each locked block of the listener's turn is its own step and the control thread's steps fall
between them in any order, reach between turns exactly the states that the runs of `Bridge`, where
a turn is one step, reach. -/
theorem fine_reach_iff (b₀ b : Bridge) :
    (∃ fes, (Fine.mk b₀ none).run fes = ⟨b, none⟩) ↔ ∃ es, b₀.run es = b := by
  constructor
  · rintro ⟨fes, h⟩
    have hinv := Fine.inv_run fes _ (show (Fine.mk b₀ none).Inv b₀ from ⟨[], rfl⟩)
    rw [h] at hinv
    exact hinv
  · rintro ⟨es, rfl⟩
    exact Fine.run_of_atomic es b₀

end CefHostBridge
