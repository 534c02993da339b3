import CefHostBridge.System.Turn
import CefHostBridge.Codec.Utf8
import CefHostBridge.Http.Numeric

/-!
# What `/status` reports

`BuildStatusJson` writes five strings of `SharedState` into its answer: `bind_addr`,
`current_url`, `title`, `last_error` and `last_ipc`. Two of them are never written from a request.
`last_error` is only ever set by `SetError`, and every `SetError` of the source passes a literal:
one of five messages of the dispatcher when `CefPostTask` rejects a task (`postErrors`), and one of
three of the tasks when the browser is not ready (`taskErrors`). `last_ipc` is never written at
all. `Turn.ErrorsIn` says which messages a turn passes to `SetError`; every turn of the dispatcher
passes only `postErrors` (`connectionTurn_errorsIn`), so every step keeps `last_error` in the
vocabulary (`Bridge.step_last_error`), and so does every run (`run_last_error_known`). No byte of
a request reaches `last_error`.

The second half reads the answer back. `buildStatusJson_eq_objectText` writes `BuildStatusJson`
as the object writer of `Codec/Json.lean` on the sixteen members, each value read back by its own
lemma (`reads_quoted`, `reads_dec`, `reads_boolText`), so the answer is read as an object whose
members are the state's fields (`jsonText_buildStatusJson`) whenever the five strings are safe for
`JsonEscape`; it is UTF-8, and so a JSON text of RFC 8259, whenever they are UTF-8 as well
(`utf8_buildStatusJson`). The source checks neither: a url with the byte `0xFF` goes into the
answer as it is. Along a run three of the strings are escapable by the first half and by `main`
(`bind_addr` never changes), which leaves the url and the title: `run_status_object`.
-/

namespace CefHostBridge

/-! ## The messages of `SetError` -/

/-- The messages that the dispatcher passes to `SetError` when `CefPostTask` rejects a task. -/
def postErrors : List Bytes :=
  [lit "open failed: CefPostTask error", lit "eval failed: CefPostTask error",
   lit "input click failed: CefPostTask error", lit "input scroll failed: CefPostTask error",
   lit "input failed: CefPostTask error"]

/-- The messages that the tasks pass to `SetError` when there is no browser. -/
def taskErrors : List Bytes :=
  [lit "open failed: browser not ready", lit "eval failed: browser not ready",
   lit "input failed: browser not ready"]

/-- What `last_error` may hold: nothing, or one of the messages of the source. -/
def KnownError (e : Bytes) : Prop := e = [] ∨ e ∈ postErrors ∨ e ∈ taskErrors

/-- Every `SetError` of the rest of a turn passes a message of `L`, whatever the turn reads. -/
def Turn.ErrorsIn (L : List Bytes) : Turn → Prop
  | .respond _ => True
  | .bump _ next => next.ErrorsIn L
  | .readStatus next => ∀ status, (next status).ErrorsIn L
  | .readFrame next => ∀ width height bgra, (next width height bgra).ErrorsIn L
  | .readSize next => ∀ width height, (next width height).ErrorsIn L
  | .post _ next onReject => next.ErrorsIn L ∧ onReject.ErrorsIn L
  | .setError err next => err ∈ L ∧ next.ErrorsIn L

@[simp] theorem SharedState.bump_last_error (s : SharedState) (k : Counter) :
    (s.bump k).last_error = s.last_error := by
  cases k <;> rfl

@[simp] theorem SharedState.bump_last_ipc (s : SharedState) (k : Counter) :
    (s.bump k).last_ipc = s.last_ipc := by
  cases k <;> rfl

/-- A turn leaves `last_error` alone or sets it to one of the messages it passes to `SetError`. -/
theorem Turn.outcome_last_error (accepted : Bool) {L : List Bytes} :
    ∀ (t : Turn) (s : SharedState), t.ErrorsIn L →
      (t.outcome accepted s).state.last_error = s.last_error ∨
        (t.outcome accepted s).state.last_error ∈ L
  | .respond _, _, _ => .inl rfl
  | .bump k next, s, h => by
    simpa using outcome_last_error accepted next (s.bump k) h
  | .readStatus next, s, h => outcome_last_error accepted (next (buildStatusJson s)) s (h _)
  | .readFrame next, s, h =>
    outcome_last_error accepted (next s.frame_width s.frame_height s.frame_bgra) s (h _ _ _)
  | .readSize next, s, h => outcome_last_error accepted (next s.frame_width s.frame_height) s (h _ _)
  | .post _ next onReject, s, h => by
    cases accepted
    · exact outcome_last_error false onReject s h.2
    · exact outcome_last_error true next s h.1
  | .setError err next, s, h => by
    rcases outcome_last_error accepted next (s.setError err) h.2 with he | he
    · exact .inr (he ▸ h.1)
    · exact .inr he

/-- No access of a turn writes `last_ipc`. -/
theorem Turn.outcome_last_ipc (accepted : Bool) :
    ∀ (t : Turn) (s : SharedState), (t.outcome accepted s).state.last_ipc = s.last_ipc
  | .respond _, _ => rfl
  | .bump k next, s => by simpa using outcome_last_ipc accepted next (s.bump k)
  | .readStatus next, s => outcome_last_ipc accepted (next (buildStatusJson s)) s
  | .readFrame next, s => outcome_last_ipc accepted (next s.frame_width s.frame_height s.frame_bgra) s
  | .readSize next, s => outcome_last_ipc accepted (next s.frame_width s.frame_height) s
  | .post _ next onReject, s => by
    cases accepted
    · exact outcome_last_ipc false onReject s
    · exact outcome_last_ipc true next s
  | .setError err next, s => outcome_last_ipc accepted next (s.setError err)

/-- `/input` passes only its three messages. -/
theorem inputTurn_errorsIn (req : HttpRequest) : (inputTurn req).ErrorsIn postErrors := by
  unfold inputTurn
  dsimp only
  split
  · trivial
  · show Turn.ErrorsIn _ (if _ then _ else _)
    split
    · split
      · trivial
      · exact ⟨trivial, by simp [postErrors], trivial⟩
    · split
      · exact fun _ _ => ⟨trivial, by simp [postErrors], trivial⟩
      · split
        · trivial
        · exact ⟨trivial, by simp [postErrors], trivial⟩

/-- Every turn of the dispatcher passes only the messages of `postErrors` to `SetError`. -/
theorem requestTurn_errorsIn (req : HttpRequest) : (requestTurn req).ErrorsIn postErrors := by
  unfold requestTurn openTurn evalTurn paramTurn
  split
  · exact fun _ => trivial
  split
  · split
    · trivial
    · exact ⟨trivial, by simp [postErrors], trivial⟩
  split
  · split
    · trivial
    · exact ⟨trivial, by simp [postErrors], trivial⟩
  split
  · exact inputTurn_errorsIn req
  split
  · exact fun _ _ _ => trivial
  split
  · exact ⟨trivial, trivial⟩
  · trivial

/-- So does every turn on a connection. -/
theorem connectionTurn_errorsIn {rs : List Recv} {t : Turn} (h : connectionTurn rs = some t) :
    t.ErrorsIn postErrors := by
  unfold connectionTurn at h
  split at h
  · cases h
  · cases h
    trivial
  · cases h
    split
    · trivial
    · exact requestTurn_errorsIn _

/-- A turn of the listener sets `last_error` to a message of `postErrors` or leaves it, and leaves
`last_ipc`. -/
theorem serveConnection_last_error {s : SharedState} {rs : List Recv} {accepted : Bool}
    {o : Outcome} (h : serveConnection s rs accepted = some o) :
    (o.state.last_error = s.last_error ∨ o.state.last_error ∈ postErrors) ∧
      o.state.last_ipc = s.last_ipc := by
  rw [← connectionTurn_outcome] at h
  obtain ⟨t, ht, rfl⟩ := Option.map_eq_some'.mp h
  exact ⟨t.outcome_last_error accepted s (connectionTurn_errorsIn ht), t.outcome_last_ipc accepted s⟩

/-- A task sets `last_error` to a message of `taskErrors` or leaves it, and leaves `last_ipc`. -/
theorem Task.execute_last_error (browser : Bool) (s : SharedState) (t : Task) :
    ((t.execute browser s).last_error = s.last_error ∨ (t.execute browser s).last_error ∈ taskErrors) ∧
      (t.execute browser s).last_ipc = s.last_ipc := by
  cases t <;> cases browser <;> simp [Task.execute, taskErrors, SharedState.setError,
    SharedState.setCurrentUrl, SharedState.setRunning]

/-- `OnPaint` writes only the frame fields. -/
theorem SharedState.onPaint_errors (s : SharedState) (p : Paint) :
    (s.onPaint p).last_error = s.last_error ∧ (s.onPaint p).last_ipc = s.last_ipc ∧
      (s.onPaint p).bind_addr = s.bind_addr := by
  unfold onPaint
  split <;> exact ⟨rfl, rfl, rfl⟩

/-- No update writes `bind_addr`. -/
theorem Update.bind_addr {s s' : SharedState} (h : Update s s') : s'.bind_addr = s.bind_addr := by
  cases h with
  | bump k => cases k <;> rfl
  | error k err => rcases k with _ | ⟨_ | _ | _⟩ <;> rfl
  | _ => rfl

/-- **The step of the error vocabulary.** A step sets `last_error` to a message of the dispatcher
or of a task, or leaves it; no step writes `last_ipc` or `bind_addr`. -/
theorem Bridge.step_last_error (b : Bridge) (e : Event) :
    ((b.step e).shared.last_error = b.shared.last_error ∨ (b.step e).shared.last_error ∈ postErrors ∨
      (b.step e).shared.last_error ∈ taskErrors) ∧
    (b.step e).shared.last_ipc = b.shared.last_ipc ∧
    (b.step e).shared.bind_addr = b.shared.bind_addr := by
  cases e
  case serve rs accepted =>
    simp only [step]
    split
    · split
      · exact ⟨.inl rfl, rfl, rfl⟩
      · rename_i o ho
        obtain ⟨he, hi⟩ := serveConnection_last_error ho
        refine ⟨he.imp_right .inl, hi, ?_⟩
        exact (serveConnection_update ho).bind_addr
    · exact ⟨.inl rfl, rfl, rfl⟩
  case runTask =>
    simp only [step]
    split
    · exact ⟨.inl rfl, rfl, rfl⟩
    · obtain ⟨he, hi⟩ := Task.execute_last_error b.browser b.shared ‹_›
      exact ⟨he.imp_right .inr, hi, (Task.execute_update _ _ _).bind_addr⟩
  case paint p =>
    obtain ⟨he, hi, hb⟩ := b.shared.onPaint_errors p
    exact ⟨.inl he, hi, hb⟩
  all_goals first | exact ⟨.inl rfl, rfl, rfl⟩ | (simp only [step]; split <;> exact ⟨.inl rfl, rfl, rfl⟩)

/-- The fields of `/status` that no request writes, along a run: `last_error` stays in the
vocabulary, `last_ipc` stays empty, and `bind_addr` as it was. -/
theorem Bridge.run_last_error :
    ∀ (es : List Event) (b : Bridge), KnownError b.shared.last_error → b.shared.last_ipc = [] →
      KnownError (b.run es).shared.last_error ∧ (b.run es).shared.last_ipc = [] ∧
        (b.run es).shared.bind_addr = b.shared.bind_addr
  | [], _, he, hi => ⟨he, hi, rfl⟩
  | e :: es, b, he, hi => by
    obtain ⟨he', hi', hb'⟩ := b.step_last_error e
    have hk : KnownError (b.step e).shared.last_error := by
      rcases he' with h | h | h
      · rwa [h]
      · exact .inr (.inl h)
      · exact .inr (.inr h)
    obtain ⟨h1, h2, h3⟩ := run_last_error es (b.step e) hk (hi'.trans hi)
    exact ⟨h1, h2, h3.trans hb'⟩

/-- **`last_error` speaks the source's vocabulary.** In every run from the state `main` builds,
`last_error` is empty or one of the eight messages that the source passes to `SetError`, and
`last_ipc` is empty. -/
theorem run_last_error_known (args : Args) (es : List Event) :
    KnownError ((Bridge.init args).run es).shared.last_error ∧
      ((Bridge.init args).run es).shared.last_ipc = [] :=
  (Bridge.run_last_error es (Bridge.init args) (.inl rfl) rfl).imp_right And.left

/-- The messages of the source are ASCII text that `JsonEscape` writes as a JSON string. -/
theorem KnownError.escapable {e : Bytes} (h : KnownError e) : JsonEscapable e := by
  have hpost : ∀ e ∈ postErrors, e.all jsonSafe ∧ e.all (· < 0x80) := by decide
  have htask : ∀ e ∈ taskErrors, e.all jsonSafe ∧ e.all (· < 0x80) := by decide
  rcases h with rfl | h | h
  · exact ⟨rfl, .nil⟩
  · exact .of_ascii (hpost e h).1 (hpost e h).2
  · exact .of_ascii (htask e h).1 (htask e h).2

/-! ## The status object -/

/-- The object that `/status` stands for: its sixteen members, with the state's values. -/
def statusObject (s : SharedState) : List (Bytes × JsonValue) :=
  [(lit "ok", .bool true), (lit "backend", .str (lit "cef")),
   (lit "mode", .str (lit "host-http-bridge")), (lit "running", .bool s.running),
   (lit "bind_addr", .str s.bind_addr), (lit "current_url", .str s.current_url),
   (lit "title", .str s.title), (lit "open_requests", .num s.open_requests.toNat),
   (lit "eval_requests", .num s.eval_requests.toNat),
   (lit "input_requests", .num s.input_requests.toNat),
   (lit "frame_capture", .bool s.frame_capture), (lit "frame_width", .num s.frame_width.toNat),
   (lit "frame_height", .num s.frame_height.toNat), (lit "frame_seq", .num s.frame_seq.toNat),
   (lit "last_error", .str s.last_error), (lit "last_ipc", .str s.last_ipc)]

/-- The five strings of `/status` are UTF-8 and hold only bytes that `JsonEscape` writes as
JSON. -/
structure StatusSafe (s : SharedState) : Prop where
  bind_addr : JsonEscapable s.bind_addr
  current_url : JsonEscapable s.current_url
  title : JsonEscapable s.title
  last_error : JsonEscapable s.last_error
  last_ipc : JsonEscapable s.last_ipc

/-- The members of `BuildStatusJson` after `ok`: each key, the text written for its value, and
the value that text stands for. -/
def statusFields (s : SharedState) : List (Bytes × Bytes × JsonValue) :=
  [(lit "backend", quoted (lit "cef"), .str (lit "cef")),
   (lit "mode", quoted (lit "host-http-bridge"), .str (lit "host-http-bridge")),
   (lit "running", boolText s.running, .bool s.running),
   (lit "bind_addr", quoted s.bind_addr, .str s.bind_addr),
   (lit "current_url", quoted s.current_url, .str s.current_url),
   (lit "title", quoted s.title, .str s.title),
   (lit "open_requests", dec s.open_requests.toNat, .num s.open_requests.toNat),
   (lit "eval_requests", dec s.eval_requests.toNat, .num s.eval_requests.toNat),
   (lit "input_requests", dec s.input_requests.toNat, .num s.input_requests.toNat),
   (lit "frame_capture", boolText s.frame_capture, .bool s.frame_capture),
   (lit "frame_width", dec s.frame_width.toNat, .num s.frame_width.toNat),
   (lit "frame_height", dec s.frame_height.toNat, .num s.frame_height.toNat),
   (lit "frame_seq", dec s.frame_seq.toNat, .num s.frame_seq.toNat),
   (lit "last_error", quoted s.last_error, .str s.last_error),
   (lit "last_ipc", quoted s.last_ipc, .str s.last_ipc)]

set_option maxRecDepth 4000 in
/-- `BuildStatusJson` is the object writer on `ok` and the fields. -/
theorem buildStatusJson_eq_objectText (s : SharedState) :
    buildStatusJson s = objectText (lit "ok", lit "true") ((statusFields s).map fun m => (m.1, m.2.1)) := by
  simp only [buildStatusJson, objectText, memberText, membersTail, statusFields, quoted, List.map,
    List.flatten_cons, List.flatten_nil, List.append_assoc, List.cons_append, List.singleton_append,
    List.nil_append, List.append_nil]
  rfl

/-- The first digit that `Nat.toDigitsCore` writes for a positive number is not `0`. -/
theorem toDigitsCore_head : ∀ (fuel n : Nat), n < fuel → 0 < n →
    ((Nat.toDigitsCore 10 fuel n []).map Char.toUInt8).head? ≠ some 48
  | 0, _, h, _ => absurd h (Nat.not_lt_zero _)
  | fuel + 1, n, h, hn => by
    simp only [Nat.toDigitsCore]
    split
    · obtain ⟨-, hval⟩ := digitChar_byte (n % 10) (Nat.mod_lt _ (by decide))
      intro h48
      simp only [List.map_cons, List.map_nil, List.head?_cons, Option.some.injEq] at h48
      rw [h48] at hval
      have : digitValue 48 = 0 := rfl
      omega
    · obtain ⟨hne, -, -⟩ := toDigitsCore_digits fuel (n / 10) (by omega)
      obtain ⟨a, A, hA⟩ := List.exists_cons_of_ne_nil hne
      have ih := toDigitsCore_head fuel (n / 10) (by omega) (by omega)
      rw [toDigitsCore_acc, List.map_append, hA, List.cons_append, List.head?_cons]
      rwa [hA, List.head?_cons] at ih

/-- **Numbers read back.** What `dec` writes reads as the number, with no leading zero. -/
theorem reads_dec (n : Nat) : Reads (dec n) (.num n) := by
  obtain ⟨hne, hd, hv⟩ := dec_digits n
  have hz : (dec n).head? = some 48 → dec n = [48] := by
    rcases Nat.eq_zero_or_pos n with rfl | hn
    · exact fun _ => rfl
    · exact fun h => absurd h (toDigitsCore_head (n + 1) n (Nat.lt_succ_self n) hn)
  simpa [hv] using reads_digits hne hd hz

/-- `true` and `false` read back. -/
theorem reads_boolText (b : Bool) : Reads (boolText b) (.bool b) := by
  cases b
  · exact reads_false
  · exact reads_true

/-- **The status object read back.** When its five strings are safe, `BuildStatusJson` is a JSON
text whose members are those of `statusObject`. -/
theorem jsonText_buildStatusJson (s : SharedState) (h : StatusSafe s) :
    jsonText (buildStatusJson s) = some (statusObject s) := by
  rw [buildStatusJson_eq_objectText]
  refine jsonText_objectText _ _ _ _ (by decide) reads_true ?_
  simp only [statusFields, List.forall_mem_cons]
  exact ⟨⟨by decide, reads_quoted (by decide)⟩, ⟨by decide, reads_quoted (by decide)⟩,
    ⟨by decide, reads_boolText _⟩, ⟨by decide, reads_quoted h.bind_addr.1⟩,
    ⟨by decide, reads_quoted h.current_url.1⟩, ⟨by decide, reads_quoted h.title.1⟩,
    ⟨by decide, reads_dec _⟩, ⟨by decide, reads_dec _⟩, ⟨by decide, reads_dec _⟩,
    ⟨by decide, reads_boolText _⟩, ⟨by decide, reads_dec _⟩, ⟨by decide, reads_dec _⟩,
    ⟨by decide, reads_dec _⟩, ⟨by decide, reads_quoted h.last_error.1⟩,
    ⟨by decide, reads_quoted h.last_ipc.1⟩, fun _ h => absurd h (List.not_mem_nil _)⟩

/-- A decimal digit is ASCII. -/
theorem decimalDigit_ascii {c : UInt8} (h : isDigitIn 10 c = true) : c < 0x80 := by
  simp only [isDigitIn, digitValue, decide_eq_true_eq] at h
  show c.toNat < 128
  split_ifs at h <;> omega

/-- What `dec` writes is ASCII. -/
theorem utf8_dec (n : Nat) : Utf8 (dec n) :=
  utf8_of_ascii (List.all_eq_true.mpr fun c hc =>
    decide_eq_true (decimalDigit_ascii ((dec_digits n).2.1 c hc)))

/-- So is what `boolText` writes. -/
theorem utf8_boolText (b : Bool) : Utf8 (boolText b) := by
  cases b <;> exact utf8_of_ascii (by decide)

/-- **The status object is UTF-8** when its five strings are. -/
theorem utf8_buildStatusJson (s : SharedState) (h : StatusSafe s) : Utf8 (buildStatusJson s) := by
  have key : ∀ {k : Bytes}, k.all (· < 0x80) → Utf8 k := utf8_of_ascii
  rw [buildStatusJson_eq_objectText]
  refine utf8_objectText ⟨key (by decide), key (by decide)⟩ ?_
  simp only [statusFields, List.map, List.forall_mem_cons]
  exact ⟨⟨key (by decide), key (by decide)⟩, ⟨key (by decide), key (by decide)⟩,
    ⟨key (by decide), utf8_boolText _⟩, ⟨key (by decide), utf8_quoted h.bind_addr.2⟩,
    ⟨key (by decide), utf8_quoted h.current_url.2⟩, ⟨key (by decide), utf8_quoted h.title.2⟩,
    ⟨key (by decide), utf8_dec _⟩, ⟨key (by decide), utf8_dec _⟩, ⟨key (by decide), utf8_dec _⟩,
    ⟨key (by decide), utf8_boolText _⟩, ⟨key (by decide), utf8_dec _⟩,
    ⟨key (by decide), utf8_dec _⟩, ⟨key (by decide), utf8_dec _⟩,
    ⟨key (by decide), utf8_quoted h.last_error.2⟩, ⟨key (by decide), utf8_quoted h.last_ipc.2⟩,
    fun _ h => absurd h (List.not_mem_nil _)⟩

/-- **`/status` along a run.** In every run from the state `main` builds with an escapable bind
address, once the current url and the title are UTF-8 with no control byte but tab, line feed
and carriage return, `BuildStatusJson` is a JSON text of RFC 8259, UTF-8 and read as the object
whose members are the sixteen fields of the state: `last_error` and `last_ipc` need no
condition. -/
theorem run_status_object (args : Args) (es : List Event) (hb : JsonEscapable args.bind_addr)
    (hu : JsonEscapable ((Bridge.init args).run es).shared.current_url)
    (ht : JsonEscapable ((Bridge.init args).run es).shared.title) :
    Utf8 (buildStatusJson ((Bridge.init args).run es).shared) ∧
      jsonText (buildStatusJson ((Bridge.init args).run es).shared) =
        some (statusObject ((Bridge.init args).run es).shared) := by
  obtain ⟨he, hi, hbind⟩ := Bridge.run_last_error es (Bridge.init args) (.inl rfl) rfl
  have hs : StatusSafe ((Bridge.init args).run es).shared :=
    ⟨hbind ▸ hb, hu, ht, he.escapable, hi ▸ ⟨rfl, .nil⟩⟩
  exact ⟨utf8_buildStatusJson _ hs, jsonText_buildStatusJson _ hs⟩

/-- The state `main` builds with the default arguments answers `/status` with the sixteen
members, in UTF-8. -/
theorem run_status_object_default :
    (JsonEscapable Args.default.bind_addr ∧
      JsonEscapable ((Bridge.init .default).run []).shared.current_url ∧
      JsonEscapable ((Bridge.init .default).run []).shared.title) ∧
    Utf8 (buildStatusJson ((Bridge.init .default).run []).shared) ∧
      jsonText (buildStatusJson ((Bridge.init .default).run []).shared) =
        some (statusObject ((Bridge.init .default).run []).shared) :=
  have hb : JsonEscapable Args.default.bind_addr := .of_ascii (by decide) (by decide)
  have hu : JsonEscapable ((Bridge.init .default).run []).shared.current_url :=
    .of_ascii (by decide) (by decide)
  have ht : JsonEscapable ((Bridge.init .default).run []).shared.title :=
    .of_ascii (by decide) (by decide)
  ⟨⟨hb, hu, ht⟩, run_status_object .default [] hb hu ht⟩

end CefHostBridge
