import CefHostBridge.Http.Send
import CefHostBridge.Http.Parse
import CefHostBridge.Http.Numeric

/-!
# The framing of a response

`SendHttpResponse` frames its body the way `ReadHttpRequest` reads one: a status line, the header
lines `Content-Type`, `Content-Length` and `Connection`, each after a `\r\n`, the blank line, and
the body. When the content type holds no line break, the first `\r\n\r\n` of the bytes is the blank
line and the declared length is the body's (`responseBytes_framing`), so a reader that frames by
`Content-Length` takes the whole response and nothing after it. `readHttpRequest_responseBytes`
says it of the program's own reader, over every split of the bytes into `recv` results.

The header lines are those of `ParseHttpRequest` (`headerLine`), so the lemmas of `Http/Parse.lean`
on the terminator and on `std::getline` apply to them.

The last section is what the reader buffers on any connection, framed or not: exactly the bytes of
the `recv` results it took, and fewer than `kMaxReq + 4096` of them, since it appends one buffer
of at most 4096 bytes only while it holds fewer than `kMaxReq` (`readHttpRequest_consumed`).
-/

namespace CefHostBridge

/-- A decimal digit is no line break and no `:`. -/
theorem dec_plain (n : Nat) : ∀ c ∈ dec n, c ≠ 13 ∧ c ≠ 10 ∧ c ≠ 58 := fun c hc => by
  have := decimalDigit_range ((dec_digits n).2.1 c hc)
  simp only [Ne, byte_eq_iff]
  simp
  omega

/-- The status line holds no line break and no `:`. -/
theorem statusLine_plain (status : Nat) : ∀ c ∈ statusLine status, c ≠ 13 ∧ c ≠ 10 ∧ c ≠ 58 := by
  have htext : ∀ c ∈ statusText status, c ≠ 13 ∧ c ≠ 10 ∧ c ≠ 58 := by
    unfold statusText
    split <;> decide
  simp only [statusLine, List.forall_mem_append]
  exact ⟨⟨⟨by decide, dec_plain status⟩, by decide⟩, htext⟩

/-- The names of the response's header lines hold no `:` and no line break, and their values hold
no line break when the content type holds none. -/
theorem responseHeaders_plain {content_type : Bytes}
    (hct : (13 : UInt8) ∉ content_type ∧ (10 : UInt8) ∉ content_type) (n : Nat) :
    ∀ p ∈ responseHeaders content_type n, (58 : UInt8) ∉ p.1 ∧ ((13 : UInt8) ∉ p.1 ∧
      (10 : UInt8) ∉ p.1) ∧ (13 : UInt8) ∉ p.2 ∧ (10 : UInt8) ∉ p.2 := by
  have hdec := dec_plain n
  simp only [responseHeaders, List.mem_cons, List.mem_singleton, List.not_mem_nil, or_false]
  rintro p (rfl | rfl | rfl) <;> dsimp only
  · exact ⟨by decide, by decide, hct⟩
  · exact ⟨by decide, by decide, fun h => (hdec 13 h).1 rfl, fun h => (hdec 10 h).2.1 rfl⟩
  · decide

/-- The header loop of `ReadHttpRequest` reads lines whose `\r` has been dropped as it reads them
with it. -/
theorem contentLength_map_dropCR :
    ∀ ls : List Bytes, (∀ l ∈ ls.map dropCR, (13 : UInt8) ∉ l) →
      contentLength ls = contentLength (ls.map dropCR)
  | [], _ => rfl
  | l :: ls, h => by
    have hl := h _ (List.mem_cons_self _ _)
    simp only [List.map_cons, contentLength, dropCR_of_not_mem hl]
    rw [contentLength_map_dropCR ls fun x hx => h x (List.mem_cons_of_mem _ hx)]

/-- A header line `k: x` is the one that `ReadHttpRequest` takes the length from exactly when `k`
lowercases to `content-length`, and the length is `strtoull` of ` x`. -/
theorem contentLength_headerLine {k x : Bytes} (hk : (58 : UInt8) ∉ k)
    (hcr : (13 : UInt8) ∉ k ∧ (13 : UInt8) ∉ x) (rest : List Bytes) :
    contentLength (headerLine (k, x) :: rest) =
      if toLowerAscii k = lit "content-length" then (strtoull (cStr (32 :: x)) 10).1
      else contentLength rest := by
  have hline : (13 : UInt8) ∉ headerLine (k, x) := by simp [headerLine, hcr.1, hcr.2]
  rw [contentLength, dropCR_of_not_mem hline]
  simp only [headerLine, find_single_append hk, List.take_left, List.drop_append]
  rfl

/-- `strtoull` reads ` n` printed in decimal as `n`, below `2^64`. -/
theorem strtoull_space_dec {n : Nat} (hn : n < 2^64) : (strtoull (cStr (32 :: dec n)) 10).1 = n := by
  obtain ⟨hne, hall, hv⟩ := dec_digits n
  have hp : DecimalParts [32] [] (dec n) := ⟨by decide, .inl rfl, hne, hall⟩
  have hs := scanInteger_of_parts hp [] (by simp)
  have h0 : (0 : UInt8) ∉ 32 :: dec n := fun h => by
    rcases List.mem_cons.mp h with h | h
    · exact absurd h (by decide)
    · exact (by have := decimalDigit_range (hall 0 h); simp at this : False)
  simp only [List.singleton_append, List.nil_append, List.append_nil] at hs
  simp only [cStr_of_nul h0, strtoull, hs, hv, if_neg (Nat.not_le.mpr hn)]
  rfl

/-- **The framing of a response.** For every status and body below `2^64` bytes, and every
content type without a line break, the first `\r\n\r\n` of the response's bytes is the blank line
before the body, and the header lines before it declare the body's length. -/
theorem responseBytes_framing (status : Nat) {content_type : Bytes}
    (hct : (13 : UInt8) ∉ content_type ∧ (10 : UInt8) ∉ content_type) (body : Bytes)
    (hb : body.length < 2^64) :
    ∃ h, find headerTerminator (responseBytes status content_type body) = some h ∧
      contentLength (getlines 10 ((responseBytes status content_type body).take h)) = body.length ∧
      (responseBytes status content_type body).length = h + 4 + body.length := by
  have hplain := responseHeaders_plain hct body.length
  have hst := statusLine_plain status
  have hline := headerLine_no_crlf (fun p hp => (hplain p hp).2.1) (fun p hp => (hplain p hp).2.2)
  have hcr : (13 : UInt8) ∉ statusLine status := fun h => (hst 13 h).1 rfl
  have hlf : (10 : UInt8) ∉ statusLine status := fun h => (hst 10 h).2.1 rfl
  have hgl := getlines_crlf_lines _ (statusLine status) (List.cons_ne_nil _ _) hlf hcr hline
  have hsplit := responseBytes_eq status content_type body
  rw [List.append_assoc _ headerTerminator, ← List.append_assoc (statusLine status)] at hsplit
  refine ⟨(statusLine status ++ ((responseHeaders content_type body.length).map headerLine).flatMap
    (fun l => 13 :: 10 :: l)).length, ?_, ?_, ?_⟩
  · rw [responseBytes_eq, find_terminator_append hcr,
      find_terminator_lines body _ fun l hl => ⟨(hline l hl).1, (hline l hl).2.2⟩,
      Option.map_some', List.length_append, Nat.add_comm]
  · rw [hsplit, List.take_left, contentLength_map_dropCR _ (by
        rw [hgl]
        simp only [List.mem_cons, forall_eq_or_imp]
        exact ⟨hcr, fun l hl => (hline l hl).2.2⟩), hgl]
    simp only [List.map_cons, List.map_nil, responseHeaders]
    rw [contentLength, dropCR_of_not_mem hcr, find_single_eq, if_neg fun h => (hst 58 h).2.2 rfl,
      contentLength_headerLine (by decide) ⟨by decide, hct.1⟩,
      contentLength_headerLine (by decide) ⟨by decide, fun h => (dec_plain _ 13 h).1 rfl⟩]
    simp only [if_neg (by decide : toLowerAscii (lit "Content-Type") ≠ lit "content-length"),
      if_pos (by decide : toLowerAscii (lit "Content-Length") = lit "content-length")]
    exact strtoull_space_dec hb
  · rw [hsplit]
    simp [headerTerminator]
    omega

/-- **A response read back.** For every status, every content type without a line break and every
body, when the response's bytes fit in 1 MiB, `ReadHttpRequest` over any split of them into `recv`
results takes exactly those results and returns the whole response: `SendHttpResponse` frames each
response by its `Content-Length` as the program's own reader frames a message. -/
theorem readHttpRequest_responseBytes (status : Nat) (content_type body : Bytes)
    (hct : (13 : UInt8) ∉ content_type ∧ (10 : UInt8) ∉ content_type)
    (cs : List Chunk) (rest : List Recv) (hcs : Chunk.join cs = responseBytes status content_type body)
    (hmax : (responseBytes status content_type body).length ≤ kMaxReq) :
    readHttpRequest (cs.map .data ++ rest) =
      .done (some (responseBytes status content_type body)) rest := by
  have hb : body.length < 2^64 := by
    have : body.length ≤ (responseBytes status content_type body).length := by
      rw [responseBytes_eq, List.length_append, List.length_append]
      omega
    unfold kMaxReq at hmax
    omega
  obtain ⟨h, hh, hcl, hlen⟩ := responseBytes_framing status hct body hb
  have hne : cs ≠ [] := by
    rintro rfl
    rw [Chunk.join_nil, responseBytes_eq] at hcs
    exact List.append_ne_nil_of_left_ne_nil (List.cons_ne_nil _ _) _ hcs.symm
  exact readLoop_chunks hh (by rw [hcl]; exact hlen) hmax rest cs []
    (by rw [List.nil_append, hcs]) hne

/-- A `text/plain` response `ok`, split inside its `Content-Type` line. -/
def okResponse : List Chunk :=
  [⟨lit "HTTP/1.1 200 OK\r\nContent-Ty", by decide, by decide⟩,
    ⟨lit "pe: text/plain\r\nContent-Length: 2\r\nConnection: close\r\n\r\nok", by decide, by decide⟩]

/-- The response of `okResponse` is read in its two `recv` calls and returned whole. -/
theorem readHttpRequest_okResponse :
    ((13 : UInt8) ∉ lit "text/plain" ∧ (10 : UInt8) ∉ lit "text/plain") ∧
      Chunk.join okResponse = responseBytes 200 (lit "text/plain") (lit "ok") ∧
      (responseBytes 200 (lit "text/plain") (lit "ok")).length ≤ kMaxReq ∧
      readHttpRequest (okResponse.map .data ++ []) =
        .done (some (responseBytes 200 (lit "text/plain") (lit "ok"))) [] :=
  ⟨by decide, by decide, by decide,
    readHttpRequest_responseBytes 200 (lit "text/plain") (lit "ok") (by decide) okResponse []
      (by decide) (by decide)⟩

/-! ## What the reader buffers -/

/-- The loop, from any `raw` below `kMaxReq + 4096`: it returns `raw` followed by the data chunks
it took, stops after them at the end of the stream, at a close or failure it also took, or with the
rest untaken, and stays below `kMaxReq + 4096`. -/
theorem readLoop_consumed : ∀ (rs : List Recv) (raw : Bytes) (he : Option Nat) (cl : Nat)
    (r : Bytes) (rest : List Recv), raw.length < kMaxReq + 4096 →
    readLoop raw he cl rs = .done (some r) rest →
    r.length < kMaxReq + 4096 ∧ ∃ cs : List Chunk, r = raw ++ Chunk.join cs ∧
      (rs = cs.map .data ++ rest ∨ rs = cs.map .data ++ .closed :: rest ∨
        rs = cs.map .data ++ .failed :: rest)
  | [], raw, he, cl, r, rest, hb, h => by
    by_cases hk : raw.length < kMaxReq
    · simp only [readLoop, if_pos hk] at h
      cases h
    · rw [readLoop_of_le (Nat.not_lt.mp hk)] at h
      obtain ⟨rfl, rfl⟩ := readDone_some h
      exact ⟨hb, [], by simp, .inl rfl⟩
  | t :: rs, raw, he, cl, r, rest, hb, h => by
    by_cases hk : raw.length < kMaxReq
    · simp only [readLoop, if_pos hk] at h
      cases t with
      | closed =>
        obtain ⟨rfl, rfl⟩ := readDone_some h
        exact ⟨hb, [], by simp, .inr (.inl rfl)⟩
      | failed =>
        obtain ⟨rfl, rfl⟩ := readDone_some h
        exact ⟨hb, [], by simp, .inr (.inr rfl)⟩
      | data c =>
        dsimp only at h
        have hb' : (raw ++ c.bytes).length < kMaxReq + 4096 := by
          have := c.le
          rw [List.length_append]
          omega
        split at h
        · obtain ⟨rfl, rfl⟩ := readDone_some h
          exact ⟨hb', [c], by simp, .inl (by simp)⟩
        · obtain ⟨hlen, cs, hr, hrs⟩ := readLoop_consumed rs _ _ _ r rest hb' h
          refine ⟨hlen, c :: cs, by simp [hr], ?_⟩
          rcases hrs with rfl | rfl | rfl <;> simp
    · rw [readLoop_of_le (Nat.not_lt.mp hk)] at h
      obtain ⟨rfl, rfl⟩ := readDone_some h
      exact ⟨hb, [], by simp, .inl rfl⟩

/-- **What `ReadHttpRequest` buffers.** On every connection, a raw request that `ReadHttpRequest`
returns is exactly the concatenation of the data of the `recv` results it took, which are the first
results of the connection, followed by the untaken rest or by one close or failure and then the
rest; and it holds fewer than `kMaxReq + 4096` bytes, one `recv` buffer past the cap. -/
theorem readHttpRequest_consumed (rs : List Recv) (raw : Bytes) (rest : List Recv)
    (h : readHttpRequest rs = .done (some raw) rest) :
    raw.length < kMaxReq + 4096 ∧ ∃ cs : List Chunk, raw = Chunk.join cs ∧
      (rs = cs.map .data ++ rest ∨ rs = cs.map .data ++ .closed :: rest ∨
        rs = cs.map .data ++ .failed :: rest) :=
  readLoop_consumed rs [] none 0 raw rest (by simp [kMaxReq]) h

/-- A request of two chunks followed by a close, read back whole with the close untaken. -/
theorem readHttpRequest_consumed_split :
    readHttpRequest (splitInHeader.map Recv.data ++ [Recv.closed]) =
        .done (some (Chunk.join splitInHeader)) [Recv.closed] ∧
      (Chunk.join splitInHeader).length < kMaxReq + 4096 ∧ ∃ cs : List Chunk,
        Chunk.join splitInHeader = Chunk.join cs ∧
        (splitInHeader.map Recv.data ++ [Recv.closed] = cs.map Recv.data ++ [Recv.closed] ∨
          splitInHeader.map Recv.data ++ [Recv.closed] =
            cs.map Recv.data ++ Recv.closed :: [Recv.closed] ∨
          splitInHeader.map Recv.data ++ [Recv.closed] =
            cs.map Recv.data ++ Recv.failed :: [Recv.closed]) :=
  have h : readHttpRequest (splitInHeader.map Recv.data ++ [Recv.closed]) =
      .done (some (Chunk.join splitInHeader)) [Recv.closed] := rfl
  ⟨h, readHttpRequest_consumed _ _ _ h⟩

end CefHostBridge
