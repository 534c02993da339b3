import CefHostBridge.System.Bridge

/-!
# A turn of `ServeHttp`, lock by lock

`serveConnection` takes one turn of the accept loop as one step. In the source the turn takes
`state->mu` once per block: the route's counter (`state->open_requests++` and its siblings), the
read of `BuildStatusJson`, the copy of the frame for `/frame`, the read of the frame size for the
scroll defaults, and `SetError`; `CefPostTask` takes the control thread's queue. `Turn` is the
dispatcher written as that sequence of accesses, with the request already read and parsed (those
touch nothing shared): `requestTurn` route by route, as `handleRequest` is.

`Turn.access` performs the next access on the bridge, and `Turn.finish` all of them in a row. Run in
a row, the accesses of a turn are the turn of the atomic model: `Turn.finish_eq_afterTurn` from the
outcome of the accesses (`Turn.outcome`), which is `handleRequest`'s (`requestTurn_outcome`), so
`connectionTurn_finish` equates the accesses of every connection with its step `.serve`.

`Turn.Wf` is the shape that every turn of the source has, and that the reduction of
`System/Reduction.lean` needs: the reads of the status and of the frame come first and are followed
by the answer, the read of the size comes once, before the post, a post is followed by the answer
when the queue takes the task and by the answer or `SetError` and the answer when it does not.
-/

namespace CefHostBridge

/-- What the listener's turn still has to do once the request is read and parsed: the blocks of
the dispatcher that take `state->mu` or call `CefPostTask`, in the order of the source, and at
the end the answer. -/
inductive Turn
  /-- `SendHttpResponse` and `CloseSocket`: the answer, and the end of the turn. -/
  | respond (r : Response)
  /-- `{ lock_guard; state->open_requests++; }` and its two siblings. -/
  | bump (k : Counter) (next : Turn)
  /-- `BuildStatusJson(state)`, under the lock. -/
  | readStatus (next : Bytes → Turn)
  /-- The copy of `frame_width`, `frame_height` and `frame_bgra` of `/frame`, under the lock. -/
  | readFrame (next : UInt32 → UInt32 → Bytes → Turn)
  /-- The read of `frame_width` and `frame_height` for the scroll defaults, under the lock. -/
  | readSize (next : UInt32 → UInt32 → Turn)
  /-- `CefPostTask(TID_UI, task)`, then `next` when the queue takes the task and `onReject` when
  it does not. -/
  | post (task : Task) (next onReject : Turn)
  /-- `SetError(state, err)`. -/
  | setError (err : Bytes) (next : Turn)

/-! ## The dispatcher, access by access -/

/-- The end of every route that posts and looks at the result, as `postTask`. -/
def postTurn (task : Task) (err ok : Bytes) : Turn :=
  .post task (.respond ⟨200, json, ok⟩)
    (.setError err (.respond ⟨500, json, errorJson (lit "post task failed")⟩))

/-- The shape of `/open` and `/eval`, as `serveParam`. -/
def paramTurn (value missing : Bytes) (k : Counter) (task : Task) (err ok : Bytes) : Turn :=
  if value = [] then .respond (badRequest missing) else .bump k (postTurn task err ok)

/-- The `/open` route on its `url` parameter. -/
def openTurn (url : Bytes) : Turn :=
  paramTurn url (lit "missing url") .openRequests (.openUrl url)
    (lit "open failed: CefPostTask error") (openAck url)

/-- The `/eval` route on its `js` parameter. -/
def evalTurn (js : Bytes) : Turn :=
  paramTurn js (lit "missing js") .evalRequests (.eval js)
    (lit "eval failed: CefPostTask error") (queuedJson (lit "eval"))

/-- The `/input` route: the counter, then for a scroll the read of the frame size, then the post. -/
def inputTurn (req : HttpRequest) : Turn :=
  let input_type := toLowerAscii (getParam req (lit "type"))
  if input_type = [] then .respond (badRequest (lit "input type invalid"))
  else
    .bump .inputRequests <|
      if input_type = lit "click" then
        let x := parseIntDefault (getParam req (lit "x")) (.ofSmall (-1) (by decide))
        let y := parseIntDefault (getParam req (lit "y")) (.ofSmall (-1) (by decide))
        if x.val < 0 ∨ y.val < 0 then .respond (badRequest (lit "click requires x and y"))
        else
          postTurn (.nativeInput .mouseClick x.val y.val 0)
            (lit "input click failed: CefPostTask error") (queuedJson (lit "click"))
      else if input_type = lit "scroll" then
        let x := parseIntDefault (getParam req (lit "x")) (.ofSmall (-1) (by decide))
        let y := parseIntDefault (getParam req (lit "y")) (.ofSmall (-1) (by decide))
        let delta := parseIntDefault (getParam req (lit "delta")) (.ofSmall 120 (by decide))
        .readSize fun width height =>
          let x := if x.val < 0 then ((width.toNat / 2 : Nat) : Int) else x.val
          let y := if y.val < 0 then ((height.toNat / 2 : Nat) : Int) else y.val
          postTurn (.nativeInput .mouseScroll x y delta.val)
            (lit "input scroll failed: CefPostTask error") (queuedJson (lit "scroll"))
      else
        let js := buildInputScript req
        if js = [] then .respond (badRequest (lit "input type invalid"))
        else postTurn (.eval js) (lit "input failed: CefPostTask error") (queuedJson (lit "input"))

/-- The answer of `/quit`, whatever `CefPostTask` returns. -/
def quitAnswer : Response := ⟨200, json, queuedJson (lit "quit")⟩

/-- The dispatch of `ServeHttp` on the path of a parsed request, access by access. -/
def requestTurn (req : HttpRequest) : Turn :=
  if req.path = lit "/status" then .readStatus fun status => .respond ⟨200, json, status⟩
  else if req.path = lit "/open" then openTurn (getParam req (lit "url"))
  else if req.path = lit "/eval" then evalTurn (getParam req (lit "js"))
  else if req.path = lit "/input" then inputTurn req
  else if req.path = lit "/frame" then
    .readFrame fun width height bgra => .respond (frameResponse width height bgra)
  else if req.path = lit "/quit" then .post .quit (.respond quitAnswer) (.respond quitAnswer)
  else
    .respond ⟨404, lit "text/plain",
      lit "routes: /status /open?url= /eval?js= /input?type=... /frame /quit\n"⟩

/-- The turn on an accepted connection after `ReadHttpRequest` and `ParseHttpRequest`: `none` when
the read waits on `recv` forever. -/
def connectionTurn (rs : List Recv) : Option Turn :=
  match readHttpRequest rs with
  | .blocked => none
  | .done none _ => some (.respond (badRequest (lit "empty request")))
  | .done (some raw) _ =>
    some <| match parseHttpRequest raw with
      | none => .respond (badRequest (lit "parse failed"))
      | some req => requestTurn req

/-! ## Accesses on the bridge -/

/-- `SendHttpResponse` and `CloseSocket`, and the return to the loop's test. -/
def Bridge.respond (b : Bridge) (r : Response) : Bridge :=
  { b with listener := .check, sent := b.sent ++ [r] }

/-- `CefPostTask` of a task that the queue takes. -/
def Bridge.enqueue (b : Bridge) (task : Task) : Bridge := { b with queue := b.queue ++ [task] }

/-- A locked write of `SharedState`. -/
def Bridge.write (b : Bridge) (f : SharedState → SharedState) : Bridge := { b with shared := f b.shared }

/-- The next access of a turn, where `accepted` is what `CefPostTask` answers: the bridge after it,
and what is left of the turn, `none` after the answer. -/
def Turn.access (accepted : Bool) (b : Bridge) : Turn → Bridge × Option Turn
  | .respond r => (b.respond r, none)
  | .bump k next => (b.write (·.bump k), some next)
  | .readStatus next => (b, some (next (buildStatusJson b.shared)))
  | .readFrame next =>
    (b, some (next b.shared.frame_width b.shared.frame_height b.shared.frame_bgra))
  | .readSize next => (b, some (next b.shared.frame_width b.shared.frame_height))
  | .post task next onReject => if accepted then (b.enqueue task, some next) else (b, some onReject)
  | .setError err next => (b.write (·.setError err), some next)

/-- The accesses of a turn in a row. -/
def Turn.finish (accepted : Bool) : Turn → Bridge → Bridge
  | .respond r, b => b.respond r
  | .bump k next, b => next.finish accepted (b.write (·.bump k))
  | .readStatus next, b => (next (buildStatusJson b.shared)).finish accepted b
  | .readFrame next, b =>
    (next b.shared.frame_width b.shared.frame_height b.shared.frame_bgra).finish accepted b
  | .readSize next, b => (next b.shared.frame_width b.shared.frame_height).finish accepted b
  | .post task next onReject, b =>
    if accepted then next.finish accepted (b.enqueue task) else onReject.finish accepted b
  | .setError err next, b => next.finish accepted (b.write (·.setError err))

/-! ## The accesses in a row are the atomic turn -/

/-- What the accesses of a turn do to `SharedState` in a row, with the task they post and the
answer. -/
def Turn.outcome (accepted : Bool) : Turn → SharedState → Outcome
  | .respond r, s => ⟨s, none, r⟩
  | .bump k next, s => next.outcome accepted (s.bump k)
  | .readStatus next, s => (next (buildStatusJson s)).outcome accepted s
  | .readFrame next, s => (next s.frame_width s.frame_height s.frame_bgra).outcome accepted s
  | .readSize next, s => (next s.frame_width s.frame_height).outcome accepted s
  | .post task next onReject, s =>
    if accepted then { next.outcome accepted s with posted := some task }
    else { onReject.outcome accepted s with posted := some task }
  | .setError err next, s => next.outcome accepted (s.setError err)

/-- `postTurn` does what `postTask` does. -/
theorem postTurn_outcome (task : Task) (err ok : Bytes) (accepted : Bool) (s : SharedState) :
    (postTurn task err ok).outcome accepted s = postTask s task err ok accepted := by
  cases accepted <;> rfl

/-- `paramTurn` does what `serveParam` does. -/
theorem paramTurn_outcome (value missing : Bytes) (k : Counter) (task : Task) (err ok : Bytes)
    (accepted : Bool) (s : SharedState) :
    (paramTurn value missing k task err ok).outcome accepted s =
      serveParam s value missing k task err ok accepted := by
  unfold paramTurn serveParam
  by_cases h : value = []
  · rw [if_pos h, if_pos h]
    rfl
  · rw [if_neg h, if_neg h]
    exact postTurn_outcome task err ok accepted _

/-- `inputTurn` does what `serveInput` does: the scroll reads the frame size after the counter, as
`serveInput` reads it from the state with the counter raised. -/
theorem inputTurn_outcome (req : HttpRequest) (accepted : Bool) (s : SharedState) :
    (inputTurn req).outcome accepted s = serveInput s req accepted := by
  unfold inputTurn serveInput
  dsimp only
  by_cases h0 : toLowerAscii (getParam req (lit "type")) = []
  · rw [if_pos h0, if_pos h0]
    rfl
  rw [if_neg h0, if_neg h0]
  by_cases hc : toLowerAscii (getParam req (lit "type")) = lit "click"
  · rw [if_pos hc, if_pos hc]
    split_ifs
    · rfl
    · exact postTurn_outcome _ _ _ accepted _
  rw [if_neg hc, if_neg hc]
  by_cases hs : toLowerAscii (getParam req (lit "type")) = lit "scroll"
  · rw [if_pos hs, if_pos hs]
    exact postTurn_outcome _ _ _ accepted _
  rw [if_neg hs, if_neg hs]
  split_ifs
  · rfl
  · exact postTurn_outcome _ _ _ accepted _

/-- `requestTurn` does what `handleRequest` does. -/
theorem requestTurn_outcome (req : HttpRequest) (accepted : Bool) (s : SharedState) :
    (requestTurn req).outcome accepted s = handleRequest s req accepted := by
  unfold requestTurn handleRequest
  by_cases h1 : req.path = lit "/status"
  · rw [if_pos h1, if_pos h1]
    rfl
  rw [if_neg h1, if_neg h1]
  by_cases h2 : req.path = lit "/open"
  · rw [if_pos h2, if_pos h2]
    exact paramTurn_outcome _ _ _ _ _ _ accepted s
  rw [if_neg h2, if_neg h2]
  by_cases h3 : req.path = lit "/eval"
  · rw [if_pos h3, if_pos h3]
    exact paramTurn_outcome _ _ _ _ _ _ accepted s
  rw [if_neg h3, if_neg h3]
  by_cases h4 : req.path = lit "/input"
  · rw [if_pos h4, if_pos h4]
    exact inputTurn_outcome req accepted s
  rw [if_neg h4, if_neg h4]
  by_cases h5 : req.path = lit "/frame"
  · rw [if_pos h5, if_pos h5]
    rfl
  rw [if_neg h5, if_neg h5]
  by_cases h6 : req.path = lit "/quit"
  · rw [if_pos h6, if_pos h6]
    cases accepted <;> rfl
  rw [if_neg h6, if_neg h6]
  rfl

/-- `connectionTurn` does what `serveConnection` does. -/
theorem connectionTurn_outcome (rs : List Recv) (accepted : Bool) (s : SharedState) :
    (connectionTurn rs).map (·.outcome accepted s) = serveConnection s rs accepted := by
  unfold connectionTurn serveConnection serveRequest
  rcases readHttpRequest rs with _ | ⟨_ | raw, _⟩
  · rfl
  · rfl
  · dsimp only
    cases parseHttpRequest raw
    · rfl
    · exact congrArg some (requestTurn_outcome _ accepted s)

/-! ## The shape of the turns -/

/-- The rest of a turn is its answer. -/
def Turn.Answers : Turn → Prop
  | .respond _ => True
  | _ => False

/-- The rest of a turn is its answer, after at most one `SetError`. -/
def Turn.Closes : Turn → Prop
  | .respond _ => True
  | .setError _ (.respond _) => True
  | _ => False

/-- The shape of the turns of `ServeHttp`, where `sized` says whether the frame size was read:
the reads of the status and of the frame are followed by the answer, the size is read once, the
post is followed by the answer when the queue takes the task and by the answer, after at most one
`SetError`, when it does not, and `SetError` is followed by the answer. -/
def Turn.Wf : Bool → Turn → Prop
  | _, .respond _ => True
  | sized, .bump _ next => next.Wf sized
  | sized, .readStatus next => sized = false ∧ ∀ status, (next status).Answers
  | sized, .readFrame next => sized = false ∧ ∀ width height bgra, (next width height bgra).Answers
  | sized, .readSize next => sized = false ∧ ∀ width height, (next width height).Wf true
  | _, .post _ next onReject => next.Answers ∧ onReject.Closes
  | _, .setError _ next => next.Answers

/-- A turn whose rest is its answer has that shape. -/
theorem Turn.Answers.wf {t : Turn} (h : t.Answers) (sized : Bool) : t.Wf sized := by
  cases t with
  | respond => trivial
  | _ => exact h.elim

/-- So does one whose rest is at most one `SetError` and the answer. -/
theorem Turn.Closes.wf {t : Turn} (h : t.Closes) (sized : Bool) : t.Wf sized := by
  match t, h with
  | .respond _, _ => trivial
  | .setError _ (.respond _), _ => trivial

/-- A turn whose rest is its answer is that answer. -/
theorem Turn.Answers.eq {t : Turn} (h : t.Answers) : ∃ r, t = .respond r := by
  cases t with
  | respond r => exact ⟨r, rfl⟩
  | _ => exact h.elim

/-- A turn whose rest is at most one `SetError` and the answer is one of the two. -/
theorem Turn.Closes.eq {t : Turn} (h : t.Closes) :
    (∃ r, t = .respond r) ∨ ∃ err r, t = .setError err (.respond r) := by
  match t, h with
  | .respond r, _ => exact .inl ⟨r, rfl⟩
  | .setError err (.respond r), _ => exact .inr ⟨err, r, rfl⟩

/-- The end of a route that posts has the shape. -/
theorem postTurn_wf (task : Task) (err ok : Bytes) (sized : Bool) :
    (postTurn task err ok).Wf sized :=
  ⟨trivial, trivial⟩

/-- `/open` and `/eval` have the shape. -/
theorem paramTurn_wf (value missing : Bytes) (k : Counter) (task : Task) (err ok : Bytes) :
    (paramTurn value missing k task err ok).Wf false := by
  unfold paramTurn
  split
  · trivial
  · exact postTurn_wf task err ok false

/-- `/input` has the shape. -/
theorem inputTurn_wf (req : HttpRequest) : (inputTurn req).Wf false := by
  unfold inputTurn
  dsimp only
  split
  · trivial
  · show Turn.Wf false (if _ then _ else _)
    split
    · split
      · trivial
      · exact postTurn_wf _ _ _ false
    · split
      · exact ⟨rfl, fun _ _ => postTurn_wf _ _ _ true⟩
      · split
        · trivial
        · exact postTurn_wf _ _ _ false

/-- Every turn of the dispatcher has the shape. -/
theorem requestTurn_wf (req : HttpRequest) : (requestTurn req).Wf false := by
  unfold requestTurn
  split
  · exact ⟨rfl, fun _ => trivial⟩
  split
  · exact paramTurn_wf _ _ _ _ _ _
  split
  · exact paramTurn_wf _ _ _ _ _ _
  split
  · exact inputTurn_wf req
  split
  · exact ⟨rfl, fun _ _ _ => trivial⟩
  split
  · exact ⟨trivial, trivial⟩
  · trivial

/-- Every turn on a connection has the shape. -/
theorem connectionTurn_wf {rs : List Recv} {t : Turn} (h : connectionTurn rs = some t) :
    t.Wf false := by
  unfold connectionTurn at h
  split at h
  · cases h
  · cases h
    trivial
  · cases h
    split
    · trivial
    · exact requestTurn_wf _

/-- The atomic model's turn on the bridge, from the outcome of the turn. -/
def Bridge.afterTurn (b : Bridge) (accepted : Bool) (o : Outcome) : Bridge :=
  { b with
    shared := o.state
    listener := .check
    queue := if accepted then b.queue ++ o.posted.toList else b.queue
    sent := b.sent ++ [o.response] }

/-- **The accesses in a row are the turn.** For every turn of the shape, its accesses in a row
leave the bridge as the atomic model does with their outcome. -/
theorem Turn.finish_eq_afterTurn (accepted : Bool) :
    ∀ (t : Turn) (sized : Bool) (b : Bridge), t.Wf sized →
      t.finish accepted b = b.afterTurn accepted (t.outcome accepted b.shared)
  | .respond r, _, b, _ => by cases accepted <;> simp [Turn.finish, Turn.outcome, Bridge.respond, Bridge.afterTurn]
  | .bump k next, sized, b, h => Turn.finish_eq_afterTurn accepted next sized _ h
  | .readStatus next, _, b, h => by
    obtain ⟨-, h⟩ := h
    exact Turn.finish_eq_afterTurn accepted (next (buildStatusJson b.shared)) false b
      (Turn.Answers.wf (h _) false)
  | .readFrame next, _, b, h => by
    obtain ⟨-, h⟩ := h
    exact Turn.finish_eq_afterTurn accepted
      (next b.shared.frame_width b.shared.frame_height b.shared.frame_bgra) false b
      (Turn.Answers.wf (h _ _ _) false)
  | .readSize next, _, b, h =>
    Turn.finish_eq_afterTurn accepted (next b.shared.frame_width b.shared.frame_height) true b
      (h.2 _ _)
  | .post task next onReject, _, b, ⟨hn, hr⟩ => by
    match next, onReject, hn, hr with
    | .respond _, .respond _, _, _ =>
      cases accepted <;> simp [Turn.finish, Turn.outcome, Bridge.respond, Bridge.enqueue, Bridge.afterTurn]
    | .respond _, .setError _ (.respond _), _, _ =>
      cases accepted <;>
        simp [Turn.finish, Turn.outcome, Bridge.respond, Bridge.enqueue, Bridge.write, Bridge.afterTurn]
  | .setError err next, _, b, h => by
    match next, h with
    | .respond _, _ =>
      cases accepted <;> simp [Turn.finish, Turn.outcome, Bridge.respond, Bridge.write, Bridge.afterTurn]

/-- The atomic step of a turn is its outcome on the bridge. -/
theorem Bridge.step_serve {b : Bridge} (hl : b.listener = .serve) {rs : List Recv} {accepted : Bool}
    {o : Outcome} (h : serveConnection b.shared rs accepted = some o) :
    b.step (.serve rs accepted) = b.afterTurn accepted o := by
  simp only [Bridge.step, hl, if_true, h]
  rfl

/-- **A connection's accesses in a row are its atomic step.** -/
theorem connectionTurn_finish {b : Bridge} (hl : b.listener = .serve) {rs : List Recv} {t : Turn}
    (h : connectionTurn rs = some t) (accepted : Bool) :
    t.finish accepted b = b.step (.serve rs accepted) := by
  have ho := connectionTurn_outcome rs accepted b.shared
  rw [h, Option.map_some'] at ho
  rw [Bridge.step_serve hl ho.symm, Turn.finish_eq_afterTurn accepted t false b (connectionTurn_wf h)]

/-- A connection whose read never ends leaves the atomic bridge alone. -/
theorem connectionTurn_none {b : Bridge} {rs : List Recv} (h : connectionTurn rs = none)
    (accepted : Bool) : b.step (.serve rs accepted) = b := by
  have ho := connectionTurn_outcome rs accepted b.shared
  rw [h, Option.map_none'] at ho
  simp only [Bridge.step, ← ho]
  split <;> rfl

end CefHostBridge
