import CefHostBridge.System.Status

/-!
# The answers of the bridge

Every turn of `ServeHttp` ends with one `SendHttpResponse`. `Answer s` lists what that call can
be on a turn from the state `s`: the status object, the acknowledgement of `/open`, the
`{"ok":true,"queued":...}` of a posted task for one of five words, an error object with one of
eight messages under 400, 500 or 503, the binary frame, or the 404 text. `serveRequest_answer`
proves that every turn on a parsed or unparsed request sends one of them, route by route.

The JSON answers are then read back with `Codec/Json.lean` and checked for UTF-8 with
`Codec/Utf8.lean`: each is a JSON text of RFC 8259, one object whose first member is `ok`, `true`
exactly on a 200 (`Answer.json_object`), provided the state's strings are UTF-8 and safe for
`JsonEscape`, with one exception, the acknowledgement of `/open` for a url that is not: a control
byte that `JsonEscape` copies raw, or bytes that are no UTF-8, such as the `0xFF` of
`/open?url=%FF`.
-/

namespace CefHostBridge

/-- The words of the `{"ok":true,"queued":"<what>"}` answers. -/
def queuedWords : List Bytes := [lit "eval", lit "click", lit "scroll", lit "input", lit "quit"]

/-- The messages of the `{"ok":false,"error":"<msg>"}` answers. -/
def answerErrors : List Bytes :=
  [lit "empty request", lit "parse failed", lit "missing url", lit "missing js",
   lit "input type invalid", lit "click requires x and y", lit "post task failed",
   lit "no frame yet (wait for OnPaint)"]

/-- The answers that a turn from the state `s` may send. -/
inductive Answer (s : SharedState) : Response → Prop
  /-- `/status`: the status object of `s`. -/
  | status : Answer s ⟨200, json, buildStatusJson s⟩
  /-- The acknowledgement of `/open`. -/
  | opened (url : Bytes) : Answer s ⟨200, json, openAck url⟩
  /-- The acknowledgement of another posted task. -/
  | queued {what : Bytes} (h : what ∈ queuedWords) : Answer s ⟨200, json, queuedJson what⟩
  /-- An error object. -/
  | error {status : Nat} {msg : Bytes} (hs : status = 400 ∨ status = 500 ∨ status = 503)
      (h : msg ∈ answerErrors) : Answer s ⟨status, json, errorJson msg⟩
  /-- The frame, as a binary PPM. -/
  | frame (body : Bytes) : Answer s ⟨200, lit "image/x-portable-pixmap", body⟩
  /-- The list of routes, for an unknown path. -/
  | notFound :
      Answer s ⟨404, lit "text/plain",
        lit "routes: /status /open?url= /eval?js= /input?type=... /frame /quit\n"⟩

/-! ## Every turn sends an answer -/

/-- A 400 with one of the messages. -/
theorem Answer.badRequest {s : SharedState} {msg : Bytes} (h : msg ∈ answerErrors) :
    Answer s (badRequest msg) :=
  .error (.inl rfl) h

/-- The end of a route that posts: its acknowledgement, or the 500 of a rejection. -/
theorem Answer.postTask {s : SharedState} (s' : SharedState) (task : Task) (err : Bytes) {ok : Bytes}
    (accepted : Bool) (hok : Answer s ⟨200, json, ok⟩) : Answer s (postTask s' task err ok accepted).response := by
  cases accepted
  · exact .error (.inr (.inl rfl)) (by simp [answerErrors])
  · exact hok

/-- `/open` and `/eval`. -/
theorem Answer.serveParam {s : SharedState} (value : Bytes) {missing : Bytes} (k : Counter)
    (task : Task) (err : Bytes) {ok : Bytes} (accepted : Bool) (hm : missing ∈ answerErrors)
    (hok : Answer s ⟨200, json, ok⟩) : Answer s (serveParam s value missing k task err ok accepted).response := by
  unfold CefHostBridge.serveParam
  split
  · exact .badRequest hm
  · exact .postTask _ _ _ _ hok

/-- `/input`. -/
theorem Answer.serveInput (s : SharedState) (req : HttpRequest) (accepted : Bool) :
    Answer s (serveInput s req accepted).response := by
  unfold CefHostBridge.serveInput
  dsimp only
  split
  · exact .badRequest (by simp [answerErrors])
  split
  · split
    · exact .badRequest (by simp [answerErrors])
    · exact .postTask _ _ _ _ (.queued (by simp [queuedWords]))
  split
  · exact .postTask _ _ _ _ (.queued (by simp [queuedWords]))
  split
  · exact .badRequest (by simp [answerErrors])
  · exact .postTask _ _ _ _ (.queued (by simp [queuedWords]))

/-- `/frame`. -/
theorem Answer.frameResponse (s : SharedState) (width height : UInt32) (bgra : Bytes) :
    Answer s (frameResponse width height bgra) := by
  unfold CefHostBridge.frameResponse
  dsimp only
  split
  · exact .error (.inr (.inr rfl)) (by simp [answerErrors])
  · exact .frame _

/-- The dispatch. -/
theorem Answer.handleRequest (s : SharedState) (req : HttpRequest) (accepted : Bool) :
    Answer s (handleRequest s req accepted).response := by
  unfold CefHostBridge.handleRequest serveOpen serveEval serveQuit
  split
  · exact .status
  split
  · exact .serveParam _ _ _ _ _ (by simp [answerErrors]) (.opened _)
  split
  · exact .serveParam _ _ _ _ _ (by simp [answerErrors]) (.queued (by simp [queuedWords]))
  split
  · exact .serveInput s req accepted
  split
  · exact .frameResponse s _ _ _
  split
  · exact .queued (by simp [queuedWords])
  · exact .notFound

/-- Every turn after a read, parsed or not, sends an answer. -/
theorem serveRequest_answer (s : SharedState) (raw : Bytes) (accepted : Bool) :
    Answer s (serveRequest s raw accepted).response := by
  unfold serveRequest
  split
  · exact .badRequest (by simp [answerErrors])
  · exact .handleRequest s _ accepted

/-! ## The JSON answers read back -/

/-- An error object is the object writer on `ok` and `error`, for a message that `JsonEscape`
leaves as it is. -/
theorem errorJson_eq_objectText {msg : Bytes} (h : jsonEscape msg = msg) :
    errorJson msg = objectText (lit "ok", lit "false") [(lit "error", quoted msg)] := by
  simp only [errorJson, objectText, memberText, membersTail, quoted, h, List.append_assoc,
    List.cons_append, List.singleton_append, List.nil_append]
  rfl

/-- So is the acknowledgement of a task, on `ok` and `queued`. -/
theorem queuedJson_eq_objectText {what : Bytes} (h : jsonEscape what = what) :
    queuedJson what = objectText (lit "ok", lit "true") [(lit "queued", quoted what)] := by
  simp only [queuedJson, objectText, memberText, membersTail, quoted, h, List.append_assoc,
    List.cons_append, List.singleton_append, List.nil_append]
  rfl

/-- And the acknowledgement of `/open`, on `ok`, `queued` and `url`, for every url. -/
theorem openAck_eq_objectText (url : Bytes) :
    openAck url =
      objectText (lit "ok", lit "true") [(lit "queued", quoted (lit "open")), (lit "url", quoted url)] := by
  simp only [openAck, objectText, memberText, membersTail, quoted, List.append_assoc,
    List.cons_append, List.singleton_append, List.nil_append]
  rfl

/-- The messages and words of the answers are ASCII text that `JsonEscape` leaves as it is. -/
theorem answer_texts_plain :
    (∀ m ∈ answerErrors, jsonEscape m = m ∧ m.all jsonSafe ∧ m.all (· < 0x80)) ∧
      ∀ w ∈ queuedWords, jsonEscape w = w ∧ w.all jsonSafe ∧ w.all (· < 0x80) := by
  decide

/-- An error object reads back as `ok` false and the message. -/
theorem jsonText_errorJson {msg : Bytes} (h : msg ∈ answerErrors) :
    jsonText (errorJson msg) = some [(lit "ok", .bool false), (lit "error", .str msg)] := by
  obtain ⟨he, hs, -⟩ := answer_texts_plain.1 msg h
  rw [errorJson_eq_objectText he]
  exact jsonText_objectText _ _ _ [(lit "error", quoted msg, .str msg)] (by decide) reads_false
    (List.forall_mem_cons.mpr ⟨⟨rfl, reads_quoted hs⟩, fun _ h => absurd h (List.not_mem_nil _)⟩)

/-- An acknowledgement reads back as `ok` true and the word. -/
theorem jsonText_queuedJson {what : Bytes} (h : what ∈ queuedWords) :
    jsonText (queuedJson what) = some [(lit "ok", .bool true), (lit "queued", .str what)] := by
  obtain ⟨he, hs, -⟩ := answer_texts_plain.2 what h
  rw [queuedJson_eq_objectText he]
  exact jsonText_objectText _ _ _ [(lit "queued", quoted what, .str what)] (by decide) reads_true
    (List.forall_mem_cons.mpr ⟨⟨rfl, reads_quoted hs⟩, fun _ h => absurd h (List.not_mem_nil _)⟩)

/-- The acknowledgement of `/open` for a safe url reads back as `ok` true, `open` and the url. -/
theorem jsonText_openAck {url : Bytes} (h : url.all jsonSafe) :
    jsonText (openAck url) =
      some [(lit "ok", .bool true), (lit "queued", .str (lit "open")), (lit "url", .str url)] := by
  rw [openAck_eq_objectText]
  exact jsonText_objectText _ _ _
    [(lit "queued", quoted (lit "open"), .str (lit "open")), (lit "url", quoted url, .str url)]
    (by decide) reads_true (List.forall_mem_cons.mpr ⟨⟨rfl, reads_quoted (by decide)⟩,
      List.forall_mem_cons.mpr ⟨⟨rfl, reads_quoted h⟩, fun _ h => absurd h (List.not_mem_nil _)⟩⟩)

/-- An acknowledgement of a posted task is ASCII, so UTF-8. -/
theorem utf8_queuedJson {what : Bytes} (h : what ∈ queuedWords) : Utf8 (queuedJson what) := by
  have ha := (answer_texts_plain.2 what h).2.2
  exact utf8_of_ascii (by simp only [queuedJson, List.all_append, ha]; decide)

/-- An error object is ASCII, so UTF-8. -/
theorem utf8_errorJson {msg : Bytes} (h : msg ∈ answerErrors) : Utf8 (errorJson msg) := by
  have ha := (answer_texts_plain.1 msg h).2.2
  exact utf8_of_ascii (by simp only [errorJson, List.all_append, ha]; decide)

/-- The acknowledgement of `/open` is UTF-8 when its url is. -/
theorem utf8_openAck {url : Bytes} (h : Utf8 url) : Utf8 (openAck url) :=
  ((utf8_of_ascii (by decide)).append h.jsonEscape).append (utf8_of_ascii (by decide))

/-- **The JSON answers.** From a state whose strings are UTF-8 and safe, every answer with the
JSON content type is a JSON text of RFC 8259, UTF-8 and read as one object whose first member is
`ok`, true exactly on a 200, but for the acknowledgement of `/open` of a url that is not UTF-8 or
holds a byte that `JsonEscape` copies raw. -/
theorem Answer.json_object {s : SharedState} {r : Response} (ha : Answer s r) (hs : StatusSafe s)
    (hj : r.content_type = json) :
    (∃ ms, Utf8 r.body ∧ jsonText r.body = some ((lit "ok", .bool (decide (r.status = 200))) :: ms)) ∨
      ∃ url, ¬JsonEscapable url ∧ r = ⟨200, json, openAck url⟩ := by
  cases ha with
  | status => exact .inl ⟨_, utf8_buildStatusJson s hs, jsonText_buildStatusJson s hs⟩
  | opened url =>
    by_cases hu : JsonEscapable url
    · exact .inl ⟨_, utf8_openAck hu.2, jsonText_openAck hu.1⟩
    · exact .inr ⟨url, hu, rfl⟩
  | queued h => exact .inl ⟨_, utf8_queuedJson h, jsonText_queuedJson h⟩
  | @error st msg hst h =>
    have h200 : decide (st = 200) = false := by rcases hst with rfl | rfl | rfl <;> rfl
    exact .inl ⟨_, utf8_errorJson h, by rw [h200]; exact jsonText_errorJson h⟩
  | frame => exact absurd hj (by decide : lit "image/x-portable-pixmap" ≠ json)
  | notFound => exact absurd hj (by decide : lit "text/plain" ≠ json)

/-- **The answers of a turn.** For every state, every run of `recv` and every outcome of
`CefPostTask`, a turn that ends sends one of the answers of `Answer`; and when the state's strings
are UTF-8 and safe, each of its JSON answers is a JSON text of RFC 8259, UTF-8 and read as one
object whose first member is `ok`, true exactly on a 200, but for the acknowledgement of `/open`
of a url that is not UTF-8 or holds a byte that `JsonEscape` copies raw. -/
theorem serveConnection_answer {s : SharedState} {rs : List Recv} {accepted : Bool} {o : Outcome}
    (h : serveConnection s rs accepted = some o) :
    Answer s o.response ∧
      (StatusSafe s → o.response.content_type = json →
        (∃ ms, Utf8 o.response.body ∧ jsonText o.response.body =
          some ((lit "ok", .bool (decide (o.response.status = 200))) :: ms)) ∨
        ∃ url, ¬JsonEscapable url ∧ o.response = ⟨200, json, openAck url⟩) := by
  have ha : Answer s o.response := by
    unfold serveConnection at h
    split at h
    · cases h
    · cases h
      exact .badRequest (by simp [answerErrors])
    · cases h
      exact serveRequest_answer s _ accepted
  exact ⟨ha, ha.json_object⟩

/-- The url of `/open?url=%FF`, the one byte `0xFF`, is no UTF-8, so its acknowledgement is the
exception: the reader takes it, but it is no JSON text of RFC 8259. -/
example : ¬JsonEscapable [0xFF] ∧ jsonText (openAck [0xFF]) =
    some [(lit "ok", .bool true), (lit "queued", .str (lit "open")), (lit "url", .str [0xFF])] :=
  ⟨fun h => h.2.ne_ff (List.mem_singleton_self _), jsonText_openAck (by decide)⟩

/-- `GET /eval?js=1`, in one `recv`. -/
def evalChunk : Chunk := ⟨lit "GET /eval?js=1 HTTP/1.1\r\n\r\n", by decide, by decide⟩

/-- A rejected `/eval` from the state `main` builds is answered with the 500 error object. -/
theorem serveConnection_answer_rejected_eval :
    serveConnection (SharedState.init .default) [.data evalChunk] false =
      some ⟨((SharedState.init .default).bump .evalRequests).setError
          (lit "eval failed: CefPostTask error"), some (.eval (lit "1")),
        ⟨500, json, errorJson (lit "post task failed")⟩⟩ ∧
    Answer (SharedState.init .default) ⟨500, json, errorJson (lit "post task failed")⟩ :=
  ⟨rfl, (@serveConnection_answer (SharedState.init .default) [.data evalChunk] false _ rfl).1⟩

end CefHostBridge
