import CefHostBridge.Cpp.Stream

/-!
# `ReadHttpRequest`

`ReadHttpRequest` calls `recv` into a 4096-byte buffer and appends what arrives to `raw` while
`raw` is below `kMaxReq` (1 MiB). Once `raw` holds `\r\n\r\n` it scans the header lines for the
first `Content-Length`, and it stops when `raw` reaches the end of the declared body, when `recv`
fails or the peer closes, or at the cap. It returns `false` for an empty `raw`.

The connection is the list of results that its `recv` calls return. `readHttpRequest` consumes
them from the front and gives back the ones it did not need, or `blocked` when it would call
`recv` after the last one, where the real call would wait for bytes that never come.

`readHttpRequest_exact` is the contract for a client that sends one complete request in any
segmentation: the loop takes exactly its chunks, returns it whole and never waits for more. The
proof carries the loop's locals through the chunks: after a proper prefix `P` of the request,
`header_end` is the first terminator in `P` and `content_length` the declared length once that is
found (`scanHeader_of_isPrefix`), and the completion test fails until the last byte.
`readLoop_no_terminator` is the other end: a stream that ends before any terminator arrives leaves
`raw` without one.

`readHttpRequest_stop` holds for every stream. The loop ends within `kMaxReq` results, since each
`recv` below the cap ends it or adds a byte (`readLoop_done`). Where it stops below the cap after
data, the completion test has passed (`readLoop_stop`, carrying `ScanInv`, what the two locals say
about `raw`): the first terminator is at some `h` and `|raw| ≥ (h + 4 + N) % 2^64`. The sum is a
`size_t`, so a declared length near `2^64` ends the read as soon as the header is in
(`readHttpRequest_negative_length`).
-/

namespace CefHostBridge

/-- The bytes that one successful `recv` puts into the 4096-byte buffer. -/
structure Chunk where
  bytes : Bytes
  ne_nil : bytes ≠ []
  le : bytes.length ≤ 4096

/-- One result of `recv` on the client socket: `n > 0` bytes, `n == 0` for a close by the peer,
or `n < 0` for a failure. -/
inductive Recv
  | data (c : Chunk)
  | closed
  | failed

/-- `kMaxReq`. -/
def kMaxReq : Nat := 1024 * 1024

/-- `\r\n\r\n`, the end of the header block. -/
def headerTerminator : Bytes := [13, 10, 13, 10]

/-- The `line.pop_back()` of a trailing `\r` that both header loops make after `std::getline`. -/
def dropCR (line : Bytes) : Bytes := if line.getLast? = some 13 then line.dropLast else line

/-- The header loop of `ReadHttpRequest`: `strtoull` of the text after the first `:` of the
first line whose name lowercases to `content-length`, and `0` when there is none. -/
def contentLength : List Bytes → Nat
  | [] => 0
  | line :: rest =>
    let line := dropCR line
    match find [58] line with
    | none => contentLength rest
    | some colon =>
      if toLowerAscii (line.take colon) = lit "content-length" then
        (strtoull (cStr (line.drop (colon + 1))) 10).1
      else contentLength rest

/-- `header_end` and `content_length` once new bytes are in `raw`: while no terminator has been
seen, a terminator found now fixes both, and afterwards neither changes. -/
def scanHeader (raw : Bytes) : Option Nat → Nat → Option Nat × Nat
  | some h, cl => (some h, cl)
  | none, cl =>
    match find headerTerminator raw with
    | none => (none, cl)
    | some h => (some h, contentLength (getlines 10 (raw.take h)))

/-- `header_end != npos && raw.size() >= header_end + 4 + content_length`, the sum in `size_t`. -/
def requestComplete (raw : Bytes) : Option Nat → Nat → Bool
  | some h, cl => (h + 4 + cl) % 2^64 ≤ raw.length
  | none, _ => false

/-- How `ReadHttpRequest` ends. `done raw rest`: it returned `false` (`raw = none`) or the raw
request, and `rest` are the `recv` results it did not take. `blocked`: it called `recv` once more
than the connection delivers. -/
inductive ReadResult
  | blocked
  | done (raw : Option Bytes) (rest : List Recv)

/-- The end of `ReadHttpRequest`: `false` for an empty `raw`. -/
def readDone (raw : Bytes) (rest : List Recv) : ReadResult :=
  .done (if raw = [] then none else some raw) rest

/-- The loop of `ReadHttpRequest`, with its locals `raw`, `header_end` and `content_length`. -/
def readLoop (raw : Bytes) (header_end : Option Nat) (content_length : Nat) :
    List Recv → ReadResult
  | [] => if raw.length < kMaxReq then .blocked else readDone raw []
  | r :: rs =>
    if raw.length < kMaxReq then
      match r with
      | .closed | .failed => readDone raw rs
      | .data c =>
        let raw := raw ++ c.bytes
        let st := scanHeader raw header_end content_length
        if requestComplete raw st.1 st.2 then readDone raw rs else readLoop raw st.1 st.2 rs
    else readDone raw (r :: rs)

/-- `ReadHttpRequest`. -/
def readHttpRequest (rs : List Recv) : ReadResult := readLoop [] none 0 rs

/-- The concatenated bytes of a list of chunks. -/
def Chunk.join (cs : List Chunk) : Bytes := (cs.map Chunk.bytes).flatten

@[simp] theorem Chunk.join_nil : Chunk.join [] = [] := rfl

@[simp] theorem Chunk.join_cons (c : Chunk) (cs : List Chunk) :
    Chunk.join (c :: cs) = c.bytes ++ Chunk.join cs := rfl

/-! ## A complete request in any segmentation -/

/-- A prefix of a string without the pattern has none either. -/
theorem find_none_of_isPrefix {pat P S : Bytes} (hS : find pat S = none) (hP : P <+: S) :
    find pat P = none :=
  find_eq_none_iff.mpr fun i hi hpi =>
    find_eq_none_iff.mp hS i (by have := hP.length_le; omega)
      (hpi.trans (drop_prefix_drop hP i))

section Complete

variable {S : Bytes} {h : Nat}

/-- After a prefix `P'` of the request that extends `P`, the loop's `header_end` and
`content_length` are those of `P'`: the first terminator and, once it is in, the declared length
`N` of the request's own header lines. -/
theorem scanHeader_of_isPrefix (hh : find headerTerminator S = some h) {P P' : Bytes}
    (hPP : P <+: P') (hP' : P' <+: S) :
    scanHeader P' (find headerTerminator P)
        (if (find headerTerminator P).isSome then contentLength (getlines 10 (S.take h)) else 0) =
      (find headerTerminator P',
        if (find headerTerminator P').isSome then contentLength (getlines 10 (S.take h)) else 0) := by
  have hP := hPP.trans hP'
  have hlen := hPP.length_le
  have hT : headerTerminator.length = 4 := rfl
  rw [find_eq_of_isPrefix hh hP, find_eq_of_isPrefix hh hP', hT]
  by_cases h1 : h + 4 ≤ P.length
  · simp [h1, show h + 4 ≤ P'.length by omega, scanHeader]
  · by_cases h2 : h + 4 ≤ P'.length
    · have htake : P'.take h = S.take h := by
        rw [List.prefix_iff_eq_take.mp hP', List.take_take, Nat.min_eq_left (by omega)]
      simp [h1, h2, scanHeader, find_eq_of_isPrefix hh hP', hT, htake]
    · simp [h1, h2, scanHeader, find_eq_of_isPrefix hh hP', hT]

/-- The loop over the remaining chunks of the request, from any proper prefix `P` of it, with the
locals that `scanHeader_of_isPrefix` gives. -/
theorem readLoop_chunks (hh : find headerTerminator S = some h)
    (hlen : S.length = h + 4 + contentLength (getlines 10 (S.take h))) (hmax : S.length ≤ kMaxReq)
    (rest : List Recv) :
    ∀ (cs : List Chunk) (P : Bytes), P ++ Chunk.join cs = S → cs ≠ [] →
      readLoop P (find headerTerminator P)
          (if (find headerTerminator P).isSome then contentLength (getlines 10 (S.take h)) else 0)
          (cs.map .data ++ rest) = .done (some S) rest
  | [], _, _, hne => absurd rfl hne
  | c :: cs, P, hS, _ => by
    have hc := List.length_pos.mpr c.ne_nil
    have hSlen : S.length = P.length + c.bytes.length + (Chunk.join cs).length := by
      rw [← hS]; simp [Nat.add_assoc]
    have hwrap : (h + 4 + contentLength (getlines 10 (S.take h))) % 2^64 = S.length := by
      rw [← hlen]; exact Nat.mod_eq_of_lt (by unfold kMaxReq at hmax; omega)
    have hP' : P ++ c.bytes <+: S := ⟨Chunk.join cs, by rw [← hS]; simp⟩
    -- The completion test after this chunk holds exactly when the chunk was the last one.
    have hdone : requestComplete (P ++ c.bytes) (find headerTerminator (P ++ c.bytes))
        (if (find headerTerminator (P ++ c.bytes)).isSome then
          contentLength (getlines 10 (S.take h)) else 0) =
          decide (S.length ≤ (P ++ c.bytes).length) := by
      have hT : headerTerminator.length = 4 := rfl
      rw [find_eq_of_isPrefix hh hP', hT]
      by_cases hin : h + 4 ≤ P.length + c.bytes.length
      · rw [if_pos (by rw [List.length_append]; exact hin), Option.isSome_some, if_pos rfl]
        show decide ((h + 4 + _) % 2^64 ≤ (P ++ c.bytes).length) = _
        rw [hwrap]
      · simp [hin, requestComplete]
        omega
    simp only [List.map_cons, List.cons_append, readLoop, if_pos (show P.length < kMaxReq by omega),
      scanHeader_of_isPrefix hh (List.prefix_append P c.bytes) hP', hdone]
    cases cs with
    | nil =>
      have hPS : P ++ c.bytes = S := by simpa using hS
      have hne : S ≠ [] := by rw [← hPS]; simp [c.ne_nil]
      simp [hPS, readDone, hne]
    | cons d ds =>
      have hd := List.length_pos.mpr d.ne_nil
      rw [if_neg (by simp at hSlen ⊢; omega)]
      exact readLoop_chunks hh hlen hmax rest (d :: ds) (P ++ c.bytes) (by simpa using hS)
        (List.cons_ne_nil _ _)

/-- **`ReadHttpRequest` on one complete request.** Let `S` be exactly one request: its first
`\r\n\r\n` at `h`, the declared length `N` of its header lines, `|S| = h + 4 + N`, at most 1 MiB.
For every split of `S` into `recv` results of 1 to 4096 bytes, and whatever the connection would
deliver after them, `ReadHttpRequest` takes exactly those chunks, one `recv` each, calls `recv`
no more (so it does not wait on a client that has sent everything), and returns `S`. -/
theorem readHttpRequest_exact (cs : List Chunk) (rest : List Recv)
    (hh : find headerTerminator (Chunk.join cs) = some h)
    (hlen : (Chunk.join cs).length =
      h + 4 + contentLength (getlines 10 ((Chunk.join cs).take h)))
    (hmax : (Chunk.join cs).length ≤ kMaxReq) :
    readHttpRequest (cs.map .data ++ rest) = .done (some (Chunk.join cs)) rest := by
  have hne : cs ≠ [] := by rintro rfl; simp [find, headerTerminator] at hh
  exact readLoop_chunks hh hlen hmax rest cs [] rfl hne

/-- `GET / HTTP/1.1` with a two-byte body, split inside its `Content-Length` line. -/
def splitInHeader : List Chunk :=
  [⟨lit "GET / HTTP/1.1\r\nContent-Le", by decide, by decide⟩,
    ⟨lit "ngth: 2\r\n\r\nab", by decide, by decide⟩]

/-- The request of `splitInHeader` is read in its two `recv` calls and returned whole. -/
theorem readHttpRequest_split_in_header :
    find headerTerminator (Chunk.join splitInHeader) = some 33 ∧
      readHttpRequest (splitInHeader.map .data ++ []) = .done (some (Chunk.join splitInHeader)) [] :=
  ⟨by decide, readHttpRequest_exact (h := 33) splitInHeader [] (by decide) (by decide) (by decide)⟩

end Complete

/-! ## A stream that ends before the terminator -/

/-- What `header_end` and `content_length` say about `raw` between two `recv` calls: no
terminator yet, or the first one at `h` and `content_length` the declared length of the lines
before it. -/
def ScanInv (raw : Bytes) : Option Nat → Nat → Prop
  | none, _ => find headerTerminator raw = none
  | some h, cl => find headerTerminator raw = some h ∧ cl = contentLength (getlines 10 (raw.take h))

/-- An occurrence found in `P` is still the first one after more bytes are appended. -/
theorem find_append_of_some {pat P : Bytes} {i : Nat} (hP : find pat P = some i) (c : Bytes) :
    find pat (P ++ c) = some i := by
  cases hS : find pat (P ++ c) with
  | none => rw [find_none_of_isPrefix hS (List.prefix_append P c)] at hP; cases hP
  | some j =>
    rw [find_eq_of_isPrefix hS (List.prefix_append P c)] at hP
    split_ifs at hP
    exact congrArg some (Option.some.inj hP)

/-- `scanHeader` keeps `ScanInv` when a chunk is appended. -/
theorem scanInv_scanHeader {raw : Bytes} {he : Option Nat} {cl : Nat} (hinv : ScanInv raw he cl)
    (c : Bytes) :
    ScanInv (raw ++ c) (scanHeader (raw ++ c) he cl).1 (scanHeader (raw ++ c) he cl).2 := by
  cases he with
  | some h =>
    obtain ⟨hf, rfl⟩ := hinv
    have hh : h ≤ raw.length := (find_eq_some_iff.mp hf).1
    exact ⟨find_append_of_some hf c, by rw [List.take_append_of_le_length hh]; rfl⟩
  | none =>
    show ScanInv (raw ++ c) (scanHeader (raw ++ c) none cl).1 (scanHeader (raw ++ c) none cl).2
    cases hf : find headerTerminator (raw ++ c) with
    | none => simp only [scanHeader, hf]; exact hf
    | some h => simp only [scanHeader, hf]; exact ⟨hf, rfl⟩

/-- The completion test passes only with the first terminator at some `h` and
`(h + 4 + N) % 2^64 ≤ |raw|`, the `size_t` sum. -/
theorem requestComplete_spec {raw : Bytes} {he : Option Nat} {cl : Nat} (hinv : ScanInv raw he cl)
    (hc : requestComplete raw he cl = true) :
    ∃ h, find headerTerminator raw = some h ∧
      (h + 4 + contentLength (getlines 10 (raw.take h))) % 2^64 ≤ raw.length := by
  cases he with
  | none => cases hc
  | some h => exact ⟨h, hinv.1, hinv.2 ▸ of_decide_eq_true hc⟩

/-- At or past the cap the loop calls `recv` no more. -/
theorem readLoop_of_le {raw : Bytes} {he : Option Nat} {cl : Nat} (hk : kMaxReq ≤ raw.length)
    (rs : List Recv) : readLoop raw he cl rs = readDone raw rs := by
  cases rs <;> simp only [readLoop, if_neg (Nat.not_lt.mpr hk)]

/-- `readDone` gives back `raw` and the untaken results. -/
theorem readDone_some {raw raw' : Bytes} {rs rest : List Recv}
    (h : readDone raw rs = .done (some raw') rest) : raw' = raw ∧ rest = rs := by
  by_cases hr : raw = [] <;> simp_all [readDone]

/-- The results the loop gives back are a suffix of those it was given, a shorter one when `raw`
was below the cap, since it then called `recv` at least once. -/
theorem readLoop_rest_length : ∀ {rs : List Recv} {raw : Bytes} {he : Option Nat} {cl : Nat}
    {r : Option Bytes} {rest : List Recv}, readLoop raw he cl rs = .done r rest →
      rest.length ≤ rs.length ∧ (raw.length < kMaxReq → rest.length < rs.length)
  | [], raw, _, _, _, _, h => by
    by_cases hk : raw.length < kMaxReq
    · simp only [readLoop, if_pos hk] at h; cases h
    · simp only [readLoop, if_neg hk] at h; cases h; exact ⟨le_rfl, fun h' => absurd h' hk⟩
  | r :: rs, raw, he, cl, _, rest, h => by
    by_cases hk : raw.length < kMaxReq
    · simp only [readLoop, if_pos hk] at h
      suffices rest_le : rest.length ≤ rs.length from ⟨by simp; omega, fun _ => by simp; omega⟩
      cases r with
      | closed | failed => cases h; exact le_rfl
      | data c =>
        dsimp only at h
        split at h
        · cases h; exact le_rfl
        · exact (readLoop_rest_length h).1
    · rw [readLoop_of_le (Nat.not_lt.mp hk)] at h; cases h; exact ⟨le_rfl, fun h' => absurd h' hk⟩

/-- **The loop ends.** From `raw`, it takes at most `kMaxReq - |raw|` results: each `recv` below
the cap either ends the loop or adds at least one byte to `raw`. -/
theorem readLoop_done : ∀ {rs : List Recv} {raw : Bytes} {he : Option Nat} {cl : Nat},
    kMaxReq - raw.length ≤ rs.length →
      ∃ r rest, readLoop raw he cl rs = .done r rest ∧
        rs.length ≤ rest.length + (kMaxReq - raw.length)
  | [], raw, _, _, hn => ⟨_, _, readLoop_of_le (by simp at hn; omega) [], by simp⟩
  | r :: rs, raw, he, cl, hn => by
    by_cases hk : raw.length < kMaxReq
    · simp only [readLoop, if_pos hk]
      cases r with
      | closed | failed => exact ⟨_, _, rfl, by simp; omega⟩
      | data c =>
        have hc := List.length_pos.mpr c.ne_nil
        dsimp only
        split
        · exact ⟨_, _, rfl, by simp; omega⟩
        · obtain ⟨r, rest, h, hl⟩ := @readLoop_done rs (raw ++ c.bytes)
            (scanHeader (raw ++ c.bytes) he cl).1 (scanHeader (raw ++ c.bytes) he cl).2
            (by simp at hn ⊢; omega)
          exact ⟨r, rest, h, by simp at hl ⊢; omega⟩
    · exact ⟨_, _, readLoop_of_le (Nat.not_lt.mp hk) _, by simp⟩

/-- **Where the loop stops below the cap.** If the loop takes exactly the data chunks `cs` and
returns `raw'` below the cap, then `raw'` is `raw` followed by the chunks, and the completion
test passed on it: its first terminator is at some `h` and `(h + 4 + N) % 2^64 ≤ |raw'|`. -/
theorem readLoop_stop {raw : Bytes} {he : Option Nat} {cl : Nat} (hinv : ScanInv raw he cl) :
    ∀ {cs : List Chunk} {rest : List Recv} {raw' : Bytes},
      readLoop raw he cl (cs.map .data ++ rest) = .done (some raw') rest →
      raw'.length < kMaxReq →
      raw' = raw ++ Chunk.join cs ∧ ∃ h, find headerTerminator raw' = some h ∧
        (h + 4 + contentLength (getlines 10 (raw'.take h))) % 2^64 ≤ raw'.length
  | cs, rest, raw', h, hr => by
    by_cases hk : raw.length < kMaxReq
    · cases cs with
      | nil => exact absurd ((readLoop_rest_length h).2 hk) (Nat.lt_irrefl _)
      | cons c cs =>
        have hinv' := scanInv_scanHeader hinv c.bytes
        rw [List.map_cons, List.cons_append, readLoop, if_pos hk] at h
        dsimp only at h
        split at h
        · next hc =>
          obtain ⟨rfl, hrest⟩ := readDone_some h
          obtain rfl : cs = [] := List.map_eq_nil_iff.mp (List.append_left_eq_self.mp hrest.symm)
          exact ⟨by simp, requestComplete_spec hinv' hc⟩
        · obtain ⟨rfl, hfind⟩ := readLoop_stop hinv' h hr
          exact ⟨by simp, hfind⟩
    · -- at the cap the loop returns `raw` itself, which is not below it
      rw [readLoop_of_le (Nat.not_lt.mp hk)] at h
      exact absurd ((readDone_some h).1 ▸ hr) hk

/-- **`ReadHttpRequest` ends, and where it stops.** On any connection it returns after at most
`kMaxReq` results. If it stops below the cap after taking exactly the data chunks `cs`, `raw` is
their concatenation, holds its first terminator at some `h`, and `|raw| ≥ (h + 4 + N) % 2^64`
for the declared length `N`. In unbounded integers that is `|raw| ≥ h + 4 + N` only while the
sum stays below `2^64`: a declared length near `2^64`, which `strtoull` gives for a negative
numeral, wraps the sum and ends the read early (`readHttpRequest_negative_length`). -/
theorem readHttpRequest_stop :
    (∀ rs : List Recv, kMaxReq ≤ rs.length →
      ∃ r rest, readHttpRequest rs = .done r rest ∧ rs.length ≤ rest.length + kMaxReq) ∧
    (∀ (cs : List Chunk) (rest : List Recv) (raw : Bytes),
      readHttpRequest (cs.map .data ++ rest) = .done (some raw) rest → raw.length < kMaxReq →
      raw = Chunk.join cs ∧ ∃ h, find headerTerminator raw = some h ∧
        (h + 4 + contentLength (getlines 10 (raw.take h))) % 2^64 ≤ raw.length ∧
        (h + 4 + contentLength (getlines 10 (raw.take h)) < 2^64 →
          h + 4 + contentLength (getlines 10 (raw.take h)) ≤ raw.length)) := by
  refine ⟨fun rs hn => readLoop_done (by simpa using hn), fun cs rest raw h hr => ?_⟩
  obtain ⟨hraw, k, hk, hle⟩ := @readLoop_stop [] none 0 rfl _ _ _ h hr
  exact ⟨by simpa using hraw, k, hk, hle, fun hlt => Nat.mod_eq_of_lt hlt ▸ hle⟩

/-- The stop law on `splitInHeader`, followed by a close. -/
theorem readHttpRequest_stop_split_in_header :
    Chunk.join splitInHeader = Chunk.join splitInHeader ∧
      ∃ h, find headerTerminator (Chunk.join splitInHeader) = some h ∧
        (h + 4 + contentLength (getlines 10 ((Chunk.join splitInHeader).take h))) % 2^64 ≤
          (Chunk.join splitInHeader).length ∧
        (h + 4 + contentLength (getlines 10 ((Chunk.join splitInHeader).take h)) < 2^64 →
          h + 4 + contentLength (getlines 10 ((Chunk.join splitInHeader).take h)) ≤
            (Chunk.join splitInHeader).length) :=
  readHttpRequest_stop.2 splitInHeader [.closed] _ rfl (by decide)

/-- A request that declares `Content-Length: -1`. -/
def negativeLength : Chunk := ⟨lit "GET / HTTP/1.1\r\nContent-Length: -1\r\n\r\n", by decide, by decide⟩

/-- `strtoull` reads `-1` as `2^64 - 1`, the sum `34 + 4 + (2^64 - 1)` wraps to `37`, and the
read stops after the header although the client keeps sending: `|raw| = 38 < h + 4 + N`. -/
theorem readHttpRequest_negative_length :
    readHttpRequest [.data negativeLength, .data negativeLength] =
        .done (some negativeLength.bytes) [.data negativeLength] ∧
      find headerTerminator negativeLength.bytes = some 34 ∧
      contentLength (getlines 10 (negativeLength.bytes.take 34)) = 2^64 - 1 ∧
      negativeLength.bytes.length < 34 + 4 + (2^64 - 1) :=
  ⟨rfl, by decide, by decide, by decide⟩

end CefHostBridge
