import CefHostBridge.Http.Parse
import CefHostBridge.Codec.Escape
import CefHostBridge.State

/-!
# The request handling of `ServeHttp`

One turn of `ServeHttp`'s accept loop reads a request with `ReadHttpRequest`, parses it with
`ParseHttpRequest`, dispatches it on its path and sends one response. `serveConnection` is that
turn for one connection, given as the list of its `recv` results; `serveRequest` the part after the
read, on the raw request; `handleRequest` the dispatch on a parsed request.

`CefPostTask` is an oracle: `accepted` is whether the control thread's queue takes the task that
the request posts. A request posts at most one task, so one flag is its whole outcome. Every
access of the dispatcher to `SharedState` is one locked access that touches only the route's
counter, `last_error`, or (for `/status`, `/frame` and the scroll defaults) reads it, so the turn
is one step on the state here.

Every handled request is described by `handleRequest_frame`: it posts nothing and leaves the state
alone, or it is an `/input` answered 400 after its counter was raised, or it posts one task and
raises its route's counter, with `last_error` set only when the post is rejected. The routes that
post go through `postTask`, which answers 500 exactly on a rejected post, so every route but
`/quit` is honest about a rejection (`handleRequest_postHonest`); `/quit` does not look at what
`CefPostTask` returns, and answers 200 all the same.
-/

namespace CefHostBridge

/-- `GetParam`: the query's value for `key`, else the form's, else the empty string. -/
def getParam (req : HttpRequest) (key : Bytes) : Bytes :=
  match req.query.find? key with
  | some v => v
  | none =>
    match req.form.find? key with
    | some v => v
    | none => []

/-- `BuildInputScript`: the script of the `/input` types that inject JavaScript, and the empty
string for any other type. -/
def buildInputScript (req : HttpRequest) : Bytes :=
  let type := toLowerAscii (getParam req (lit "type"))
  if type = lit "text" then
    let text := getParam req (lit "text")
    lit "(()=>\x7bconst t=\x27" ++ jsSingleQuoteEscape text ++
      lit "\x27;const el=document.activeElement;if(el&&(\x27value\x27 in el))\x7bel.value+=t;el.dispatchEvent(new Event(\x27input\x27,\x7bbubbles:true\x7d));\x7delse\x7bdocument.body.append(t);\x7d\x7d)();"
  else if type = lit "key" then
    let key := getParam req (lit "key")
    let key := if key = [] then lit "Enter" else key
    lit "(()=>\x7bconst k=\x27" ++ jsSingleQuoteEscape key ++
      lit "\x27;document.dispatchEvent(new KeyboardEvent(\x27keydown\x27,\x7bkey:k,bubbles:true\x7d));document.dispatchEvent(new KeyboardEvent(\x27keyup\x27,\x7bkey:k,bubbles:true\x7d));\x7d)();"
  else if type = lit "back" then lit "(()=>\x7bhistory.back();\x7d)();"
  else if type = lit "forward" then lit "(()=>\x7bhistory.forward();\x7d)();"
  else if type = lit "reload" then lit "(()=>\x7blocation.reload();\x7d)();"
  else []

/-- `ParseIntDefault`: `fallback` for the empty text, for a text that `strtol` does not read up to
its terminating NUL, and for a value outside `int`. -/
def parseIntDefault (text : Bytes) (fallback : CInt) : CInt :=
  if text = [] then fallback
  else
    let r := strtol (cStr text) 10
    if !atNul text r.2 then fallback
    else if h : -2^31 ≤ r.1 ∧ r.1 < 2^31 then ⟨r.1, h.1, h.2⟩ else fallback

/-- The `int` constants that `ServeHttp` passes to `ParseIntDefault`. -/
def CInt.ofSmall (v : Int) (h : -2^31 ≤ v ∧ v < 2^31) : CInt := ⟨v, h.1, h.2⟩

/-! ## Responses -/

/-- `application/json`, the content type of every answer but `/frame`'s and the 404. -/
def json : Bytes := lit "application/json"

/-- The body `{"ok":false,"error":"<msg>"}` of every error answer. -/
def errorJson (msg : Bytes) : Bytes := lit "\x7b\"ok\":false,\"error\":\"" ++ msg ++ lit "\"\x7d"

/-- A 400 answer. -/
def badRequest (msg : Bytes) : Response := ⟨400, json, errorJson msg⟩

@[simp] theorem badRequest_status (msg : Bytes) : (badRequest msg).status = 400 := rfl

/-- The body `{"ok":true,"queued":"<what>"}` of the answer to a posted task. -/
def queuedJson (what : Bytes) : Bytes :=
  lit "\x7b\"ok\":true,\"queued\":\"" ++ what ++ lit "\"\x7d"

/-- The body of the `/open` answer: `{"ok":true,"queued":"open","url":"<url>"}`. -/
def openAck (url : Bytes) : Bytes :=
  lit "\x7b\"ok\":true,\"queued\":\"open\",\"url\":\"" ++ jsonEscape url ++ lit "\"\x7d"

/-- What `std::ostream` writes for an unsigned integer: its decimal digits. -/
def dec (n : Nat) : Bytes := lit (Nat.repr n)

/-- What `std::ostream` writes for `cond ? "true" : "false"`. -/
def boolText (b : Bool) : Bytes := if b then lit "true" else lit "false"

/-- `BuildStatusJson`, one entry per `os <<` line of the source. -/
def buildStatusJson (s : SharedState) : Bytes :=
  [lit "\x7b",
   lit "\"ok\":true,",
   lit "\"backend\":\"cef\",",
   lit "\"mode\":\"host-http-bridge\",",
   lit "\"running\":" ++ boolText s.running ++ lit ",",
   lit "\"bind_addr\":\"" ++ jsonEscape s.bind_addr ++ lit "\",",
   lit "\"current_url\":\"" ++ jsonEscape s.current_url ++ lit "\",",
   lit "\"title\":\"" ++ jsonEscape s.title ++ lit "\",",
   lit "\"open_requests\":" ++ dec s.open_requests.toNat ++ lit ",",
   lit "\"eval_requests\":" ++ dec s.eval_requests.toNat ++ lit ",",
   lit "\"input_requests\":" ++ dec s.input_requests.toNat ++ lit ",",
   lit "\"frame_capture\":" ++ boolText s.frame_capture ++ lit ",",
   lit "\"frame_width\":" ++ dec s.frame_width.toNat ++ lit ",",
   lit "\"frame_height\":" ++ dec s.frame_height.toNat ++ lit ",",
   lit "\"frame_seq\":" ++ dec s.frame_seq.toNat ++ lit ",",
   lit "\"last_error\":\"" ++ jsonEscape s.last_error ++ lit "\",",
   lit "\"last_ipc\":\"" ++ jsonEscape s.last_ipc ++ lit "\"",
   lit "\x7d"].flatten

/-- The pixels of the `/frame` answer: for `i = 0, 4, 8, ...` below `expected`, the bytes
`bgra[i + 2]`, `bgra[i + 1]`, `bgra[i]`. -/
def ppmPixels (bgra : Bytes) (expected : Nat) : Bytes :=
  (List.range ((expected + 3) / 4)).flatMap fun j =>
    [bgra.getD (4 * j + 2) 0, bgra.getD (4 * j + 1) 0, bgra.getD (4 * j) 0]

/-- The `/frame` route on the frame fields that it copies under the lock: 503 while the size is
zero or the buffer is short of `expected = width * height * 4` in `size_t`, and otherwise the
binary PPM of the buffer. -/
def frameResponse (width height : UInt32) (bgra : Bytes) : Response :=
  let expected := width.toNat * height.toNat * 4 % 2^64
  if width = 0 ∨ height = 0 ∨ bgra.length < expected then
    ⟨503, json, errorJson (lit "no frame yet (wait for OnPaint)")⟩
  else
    ⟨200, lit "image/x-portable-pixmap",
      lit "P6\n" ++ dec width.toNat ++ lit " " ++ dec height.toNat ++ lit "\n255\n" ++
        ppmPixels bgra expected⟩

/-- The `/frame` route answers 200 or 503. -/
theorem frameResponse_status (width height : UInt32) (bgra : Bytes) :
    (frameResponse width height bgra).status ≠ 500 := by
  unfold frameResponse
  dsimp only
  split <;> simp

/-! ## Dispatch -/

/-- What one turn of the accept loop does: the state after it, the task that it passed to
`CefPostTask` if any, and the arguments of its `SendHttpResponse`. -/
structure Outcome where
  state : SharedState
  posted : Option Task
  response : Response

/-- The end of every route that posts and looks at the result: `CefPostTask(TID_UI, task)`, then
on a rejection `SetError(state, err)` and 500, and otherwise 200 with the body `ok`. -/
def postTask (s : SharedState) (task : Task) (err ok : Bytes) (accepted : Bool) : Outcome :=
  if accepted then ⟨s, some task, ⟨200, json, ok⟩⟩
  else ⟨s.setError err, some task, ⟨500, json, errorJson (lit "post task failed")⟩⟩

/-- The shape of `/open` and `/eval`: 400 with `missing` for an empty parameter, and otherwise the
route's counter raised under the lock and the task posted. -/
def serveParam (s : SharedState) (value missing : Bytes) (k : Counter) (task : Task)
    (err ok : Bytes) (accepted : Bool) : Outcome :=
  if value = [] then ⟨s, none, badRequest missing⟩
  else postTask (s.bump k) task err ok accepted

/-- The `/open` route on its `url` parameter. -/
def serveOpen (s : SharedState) (url : Bytes) (accepted : Bool) : Outcome :=
  serveParam s url (lit "missing url") .openRequests (.openUrl url)
    (lit "open failed: CefPostTask error") (openAck url) accepted

/-- The `/eval` route on its `js` parameter. -/
def serveEval (s : SharedState) (js : Bytes) (accepted : Bool) : Outcome :=
  serveParam s js (lit "missing js") .evalRequests (.eval js)
    (lit "eval failed: CefPostTask error") (queuedJson (lit "eval")) accepted

/-- The `/input` route. Its counter is raised as soon as the type is not empty, before the type
and the coordinates are checked. -/
def serveInput (s : SharedState) (req : HttpRequest) (accepted : Bool) : Outcome :=
  let input_type := toLowerAscii (getParam req (lit "type"))
  if input_type = [] then ⟨s, none, badRequest (lit "input type invalid")⟩
  else
    let s := s.bump .inputRequests
    if input_type = lit "click" then
      let x := parseIntDefault (getParam req (lit "x")) (.ofSmall (-1) (by decide))
      let y := parseIntDefault (getParam req (lit "y")) (.ofSmall (-1) (by decide))
      if x.val < 0 ∨ y.val < 0 then ⟨s, none, badRequest (lit "click requires x and y")⟩
      else
        postTask s (.nativeInput .mouseClick x.val y.val 0)
          (lit "input click failed: CefPostTask error") (queuedJson (lit "click")) accepted
    else if input_type = lit "scroll" then
      let x := parseIntDefault (getParam req (lit "x")) (.ofSmall (-1) (by decide))
      let y := parseIntDefault (getParam req (lit "y")) (.ofSmall (-1) (by decide))
      let delta := parseIntDefault (getParam req (lit "delta")) (.ofSmall 120 (by decide))
      let x := if x.val < 0 then ((s.frame_width.toNat / 2 : Nat) : Int) else x.val
      let y := if y.val < 0 then ((s.frame_height.toNat / 2 : Nat) : Int) else y.val
      postTask s (.nativeInput .mouseScroll x y delta.val)
        (lit "input scroll failed: CefPostTask error") (queuedJson (lit "scroll")) accepted
    else
      let js := buildInputScript req
      if js = [] then ⟨s, none, badRequest (lit "input type invalid")⟩
      else
        postTask s (.eval js) (lit "input failed: CefPostTask error") (queuedJson (lit "input"))
          accepted

/-- The `/quit` route: `CefPostTask` of a `QuitTask`, whose result it does not look at, and 200. -/
def serveQuit (s : SharedState) : Outcome := ⟨s, some .quit, ⟨200, json, queuedJson (lit "quit")⟩⟩

/-- The dispatch of `ServeHttp` on the path of a parsed request. -/
def handleRequest (s : SharedState) (req : HttpRequest) (accepted : Bool) : Outcome :=
  if req.path = lit "/status" then ⟨s, none, ⟨200, json, buildStatusJson s⟩⟩
  else if req.path = lit "/open" then serveOpen s (getParam req (lit "url")) accepted
  else if req.path = lit "/eval" then serveEval s (getParam req (lit "js")) accepted
  else if req.path = lit "/input" then serveInput s req accepted
  else if req.path = lit "/frame" then ⟨s, none, frameResponse s.frame_width s.frame_height s.frame_bgra⟩
  else if req.path = lit "/quit" then serveQuit s
  else
    ⟨s, none, ⟨404, lit "text/plain",
      lit "routes: /status /open?url= /eval?js= /input?type=... /frame /quit\n"⟩⟩

/-- The turn after a successful read: 400 when `ParseHttpRequest` fails, and the dispatch
otherwise. -/
def serveRequest (s : SharedState) (raw : Bytes) (accepted : Bool) : Outcome :=
  match parseHttpRequest raw with
  | none => ⟨s, none, badRequest (lit "parse failed")⟩
  | some req => handleRequest s req accepted

/-- One turn of the accept loop on an accepted connection: `none` when `ReadHttpRequest` waits on
`recv` forever, 400 when it returns `false`, and `serveRequest` on what it read otherwise. -/
def serveConnection (s : SharedState) (rs : List Recv) (accepted : Bool) : Option Outcome :=
  match readHttpRequest rs with
  | .blocked => none
  | .done none _ => some ⟨s, none, badRequest (lit "empty request")⟩
  | .done (some raw) _ => some (serveRequest s raw accepted)

/-- A request that parses is dispatched. -/
theorem serveRequest_of_parse {raw : Bytes} {req : HttpRequest} (h : parseHttpRequest raw = some req)
    (s : SharedState) (accepted : Bool) : serveRequest s raw accepted = handleRequest s req accepted := by
  rw [serveRequest, h]

/-! ## The frame of one turn -/

/-- What `/input` can do: refuse an empty type and change nothing, refuse after raising its
counter, or post a task after raising it, with a non-empty message for a rejection. -/
theorem serveInput_cases (s : SharedState) (req : HttpRequest) (accepted : Bool) :
    serveInput s req accepted = ⟨s, none, badRequest (lit "input type invalid")⟩ ∨
      (∃ msg, serveInput s req accepted = ⟨s.bump .inputRequests, none, badRequest msg⟩) ∨
      ∃ task err ok, err ≠ [] ∧
        serveInput s req accepted = postTask (s.bump .inputRequests) task err ok accepted := by
  rw [serveInput]
  generalize toLowerAscii (getParam req (lit "type")) = t
  by_cases ht : t = []
  · exact .inl (if_pos ht)
  rw [if_neg ht]
  refine .inr ?_
  by_cases hclick : t = lit "click"
  · rw [if_pos hclick]
    by_cases hxy : (parseIntDefault (getParam req (lit "x")) (.ofSmall (-1) (by decide))).val < 0 ∨
        (parseIntDefault (getParam req (lit "y")) (.ofSmall (-1) (by decide))).val < 0
    · exact .inl ⟨_, if_pos hxy⟩
    · exact .inr ⟨_, _, _, by decide, if_neg hxy⟩
  rw [if_neg hclick]
  by_cases hscroll : t = lit "scroll"
  · exact .inr ⟨_, _, _, by decide, if_pos hscroll⟩
  rw [if_neg hscroll]
  by_cases hjs : buildInputScript req = []
  · exact .inl ⟨_, if_pos hjs⟩
  · exact .inr ⟨_, _, _, by decide, if_neg hjs⟩


/-- `postTask` passes its task to `CefPostTask`. -/
@[simp] theorem postTask_posted (s : SharedState) (task : Task) (err ok : Bytes) (accepted : Bool) :
    (postTask s task err ok accepted).posted = some task := by
  cases accepted <;> rfl

/-- The counter that a path's route raises: `/open`, `/eval` and `/input` their own, and the others
none. -/
def routeCounter (path : Bytes) : Option Counter :=
  if path = lit "/open" then some .openRequests
  else if path = lit "/eval" then some .evalRequests
  else if path = lit "/input" then some .inputRequests
  else none

/-- The state with the counter `k` raised, if there is one. -/
def SharedState.bumpRoute (s : SharedState) : Option Counter → SharedState
  | some k => s.bump k
  | none => s

/-- The dispatch, route by route: `/status`, `/frame` and unknown paths answer without a post, a
counter or a 500; `/open` and `/eval` are `serveParam` on their counter with a non-empty message
for a rejection; then `/input`, and `/quit`. -/
theorem handleRequest_cases (s : SharedState) (req : HttpRequest) (accepted : Bool) :
    (∃ r : Response, r.status ≠ 500 ∧ routeCounter req.path = none ∧
      handleRequest s req accepted = ⟨s, none, r⟩) ∨
    (∃ value missing k task err ok, err ≠ [] ∧ routeCounter req.path = some k ∧
      handleRequest s req accepted = serveParam s value missing k task err ok accepted) ∨
    (routeCounter req.path = some .inputRequests ∧
      handleRequest s req accepted = serveInput s req accepted) ∨
    (req.path = lit "/quit" ∧ handleRequest s req accepted = serveQuit s) := by
  rw [handleRequest]
  by_cases hstatus : req.path = lit "/status"
  · rw [if_pos hstatus]
    exact .inl ⟨_, by simp, by rw [hstatus]; decide, rfl⟩
  rw [if_neg hstatus]
  by_cases hopen : req.path = lit "/open"
  · rw [if_pos hopen]
    exact .inr (.inl ⟨_, _, _, _, _, _, by decide, by rw [hopen]; decide, rfl⟩)
  rw [if_neg hopen]
  by_cases heval : req.path = lit "/eval"
  · rw [if_pos heval]
    exact .inr (.inl ⟨_, _, _, _, _, _, by decide, by rw [heval]; decide, rfl⟩)
  rw [if_neg heval]
  by_cases hinput : req.path = lit "/input"
  · rw [if_pos hinput]
    exact .inr (.inr (.inl ⟨by rw [hinput]; decide, rfl⟩))
  rw [if_neg hinput]
  have hnone : routeCounter req.path = none := by simp only [routeCounter, hopen, heval, hinput, if_false]
  by_cases hframe : req.path = lit "/frame"
  · rw [if_pos hframe]
    exact .inl ⟨_, frameResponse_status _ _ _, hnone, rfl⟩
  rw [if_neg hframe]
  by_cases hquit : req.path = lit "/quit"
  · rw [if_pos hquit]
    exact .inr (.inr (.inr ⟨hquit, rfl⟩))
  rw [if_neg hquit]
  exact .inl ⟨_, by simp, hnone, rfl⟩

/-- What one turn from `s` may do, for a route whose counter is `k`: post nothing and change
nothing; or post nothing after the `/input` counter was raised, and answer 400; or post one task
and raise the route's counter, then answer 200, or, only when the post was rejected, set
`last_error` to a non-empty message and answer 500. -/
def TurnFrame (s : SharedState) (k : Option Counter) (accepted : Bool) (o : Outcome) : Prop :=
  (o.posted = none ∧ o.state = s) ∨
  (o.posted = none ∧ k = some .inputRequests ∧ o.response.status = 400 ∧
    o.state = s.bump .inputRequests) ∨
  (o.posted.isSome ∧ (o.response.status = 200 ∧ o.state = s.bumpRoute k ∨
    accepted = false ∧ o.response.status = 500 ∧
      ∃ err, err ≠ [] ∧ o.state = (s.bumpRoute k).setError err))

/-- In the frame, a turn that answers neither 200 nor 500, outside `/input`, posts nothing and
changes nothing. -/
theorem TurnFrame.idle_of_status {s : SharedState} {k : Option Counter} {accepted : Bool}
    {o : Outcome} (h : TurnFrame s k accepted o) (hk : k ≠ some .inputRequests)
    (h200 : o.response.status ≠ 200) (h500 : o.response.status ≠ 500) :
    o.posted = none ∧ o.state = s := by
  rcases h with h | ⟨-, hk', -⟩ | ⟨-, ⟨h2, -⟩ | ⟨-, h5, -⟩⟩
  · exact h
  · exact absurd hk' hk
  · exact absurd h2 h200
  · exact absurd h5 h500

/-- A turn that posts nothing and changes nothing is in the frame. -/
theorem turnFrame_idle {s : SharedState} {k : Option Counter} {accepted : Bool} (r : Response) :
    TurnFrame s k accepted ⟨s, none, r⟩ :=
  .inl ⟨rfl, rfl⟩

/-- A post after the route's counter was raised is in the frame. -/
theorem turnFrame_postTask {s : SharedState} {k : Option Counter} {accepted : Bool} (task : Task)
    {err : Bytes} (herr : err ≠ []) (ok : Bytes) :
    TurnFrame s k accepted (postTask (s.bumpRoute k) task err ok accepted) := by
  refine .inr (.inr ⟨by simp, ?_⟩)
  cases accepted
  · exact .inr ⟨rfl, rfl, err, herr, rfl⟩
  · exact .inl ⟨rfl, rfl⟩

/-- `/open` and `/eval` are in the frame of their counter. -/
theorem serveParam_frame (s : SharedState) (value missing : Bytes) (k : Counter) (task : Task)
    {err : Bytes} (herr : err ≠ []) (ok : Bytes) (accepted : Bool) :
    TurnFrame s (some k) accepted (serveParam s value missing k task err ok accepted) := by
  unfold serveParam
  split
  · exact turnFrame_idle _
  · exact turnFrame_postTask (k := some k) task herr ok

/-- `/input` is in the frame of its counter. -/
theorem serveInput_frame (s : SharedState) (req : HttpRequest) (accepted : Bool) :
    TurnFrame s (some .inputRequests) accepted (serveInput s req accepted) := by
  rcases serveInput_cases s req accepted with h | ⟨msg, h⟩ | ⟨task, err, ok, herr, h⟩ <;> rw [h]
  · exact turnFrame_idle _
  · exact .inr (.inl ⟨rfl, rfl, rfl, rfl⟩)
  · exact turnFrame_postTask (k := some .inputRequests) task herr ok

/-- **The frame of a dispatched request.** Every route is in the frame of its counter. -/
theorem handleRequest_frame (s : SharedState) (req : HttpRequest) (accepted : Bool) :
    TurnFrame s (routeCounter req.path) accepted (handleRequest s req accepted) := by
  rcases handleRequest_cases s req accepted with
    ⟨r, -, -, h⟩ | ⟨value, missing, k, task, err, ok, herr, hk, h⟩ | ⟨hk, h⟩ | ⟨hquit, h⟩ <;> rw [h]
  · exact turnFrame_idle _
  · rw [hk]; exact serveParam_frame s value missing k task herr ok accepted
  · rw [hk]; exact serveInput_frame s req accepted
  · rw [hquit]; exact .inr (.inr ⟨rfl, .inl ⟨rfl, rfl⟩⟩)

/-! ## Answers to rejected posts -/

/-- A turn answers 500 exactly when it posted and the post was rejected, and it has then set a
non-empty `last_error`. -/
def PostHonest (accepted : Bool) (o : Outcome) : Prop :=
  (o.response.status = 500 ↔ o.posted.isSome ∧ accepted = false) ∧
    (o.response.status = 500 → o.state.last_error ≠ [])

/-- A turn that posts nothing and does not answer 500 is honest. -/
theorem postHonest_idle {accepted : Bool} (s : SharedState) {r : Response} (hr : r.status ≠ 500) :
    PostHonest accepted ⟨s, none, r⟩ :=
  ⟨by simp [hr], fun h => absurd h hr⟩

/-- `postTask` with a non-empty error message is honest. -/
theorem postHonest_postTask {accepted : Bool} (s : SharedState) (task : Task) {err : Bytes}
    (herr : err ≠ []) (ok : Bytes) : PostHonest accepted (postTask s task err ok accepted) := by
  cases accepted
  · exact ⟨by simp [postTask], fun _ => herr⟩
  · exact ⟨by simp [postTask], by simp [postTask]⟩

/-- `/open` and `/eval` are honest about a rejected post. -/
theorem serveParam_postHonest (s : SharedState) (value missing : Bytes) (k : Counter) (task : Task)
    {err : Bytes} (herr : err ≠ []) (ok : Bytes) (accepted : Bool) :
    PostHonest accepted (serveParam s value missing k task err ok accepted) := by
  unfold serveParam
  split
  · exact postHonest_idle _ (by simp)
  · exact postHonest_postTask _ _ herr _

/-- `/input` is honest about a rejected post. -/
theorem serveInput_postHonest (s : SharedState) (req : HttpRequest) (accepted : Bool) :
    PostHonest accepted (serveInput s req accepted) := by
  rcases serveInput_cases s req accepted with h | ⟨msg, h⟩ | ⟨task, err, ok, herr, h⟩ <;> rw [h]
  · exact postHonest_idle _ (by simp)
  · exact postHonest_idle _ (by simp)
  · exact postHonest_postTask _ task herr ok

/-- **Rejected posts, route by route.** Every route but `/quit` is honest about a rejected post. -/
theorem handleRequest_postHonest (s : SharedState) (req : HttpRequest) (accepted : Bool)
    (hq : req.path ≠ lit "/quit") : PostHonest accepted (handleRequest s req accepted) := by
  rcases handleRequest_cases s req accepted with
    ⟨r, hr, -, h⟩ | ⟨value, missing, k, task, err, ok, herr, -, h⟩ | ⟨-, h⟩ | ⟨hquit, -⟩
  · rw [h]; exact postHonest_idle s hr
  · rw [h]; exact serveParam_postHonest s value missing k task herr ok accepted
  · rw [h]; exact serveInput_postHonest s req accepted
  · exact absurd hquit hq

/-- **The frame of one turn on a raw request.** For every state, every raw request, parsed or
not, and every outcome of `CefPostTask`, the turn is in the frame of the counter of the parsed
request's route; so a turn outside `/input` that answers 400, 404 or 503 posts nothing and
changes nothing. Outside `/quit`, the turn answers 500 exactly when it posted and the post was
rejected, and it has then set a non-empty `last_error`. -/
theorem serveRequest_frame (s : SharedState) (raw : Bytes) (accepted : Bool) :
    TurnFrame s ((parseHttpRequest raw).bind fun req => routeCounter req.path) accepted
        (serveRequest s raw accepted) ∧
      (((parseHttpRequest raw).bind fun req => routeCounter req.path) ≠ some .inputRequests →
        ((serveRequest s raw accepted).response.status = 400 ∨
          (serveRequest s raw accepted).response.status = 404 ∨
          (serveRequest s raw accepted).response.status = 503) →
        (serveRequest s raw accepted).posted = none ∧ (serveRequest s raw accepted).state = s) ∧
      ((parseHttpRequest raw).map HttpRequest.path ≠ some (lit "/quit") →
        PostHonest accepted (serveRequest s raw accepted)) := by
  unfold serveRequest
  cases parseHttpRequest raw with
  | none => exact ⟨turnFrame_idle _, fun _ _ => ⟨rfl, rfl⟩, fun _ => postHonest_idle s (by decide)⟩
  | some req =>
    dsimp only
    have hf := handleRequest_frame s req accepted
    exact ⟨hf, fun hk hs => hf.idle_of_status hk (by omega) (by omega),
      fun hq => handleRequest_postHonest s req accepted fun h => hq (congrArg some h)⟩

/-- A `/quit` whose `QuitTask` the queue rejects is answered 200 all the same, and `last_error` is
left as it was. -/
theorem serveRequest_quit_rejected (s : SharedState) :
    serveRequest s (lit "GET /quit HTTP/1.1\r\n\r\n") false =
      ⟨s, some .quit, ⟨200, json, queuedJson (lit "quit")⟩⟩ :=
  rfl

/-- `GET /open?url=%01` is acknowledged with the byte `0x01` copied into the `url` member, and the
text after that member's opening quote is no JSON string. -/
theorem serveRequest_open_control_byte (s : SharedState) :
    serveRequest s (lit "GET /open?url=%01 HTTP/1.1\r\n\r\n") true =
      ⟨s.bump .openRequests, some (.openUrl [1]), ⟨200, json, openAck [1]⟩⟩ ∧
    openAck [1] = lit "\x7b\"ok\":true,\"queued\":\"open\",\"url\":\"" ++ [1, 34, 125] ∧
    jsonString [1, 34, 125] = none :=
  ⟨rfl, rfl, (jsonString_escape_append [1] [125]).trans (by decide)⟩

/-! ## Connections that end early -/

end CefHostBridge
