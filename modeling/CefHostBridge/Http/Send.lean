import CefHostBridge.Http.Serve

/-!
# `SendHttpResponse`

`SendHttpResponse` writes the status line and the three headers into a `std::ostringstream`,
appends the body, and then calls `send` on what is left of those bytes until all of them are out
or a call returns `n <= 0`. The results of the `send` calls come from the peer and the kernel: the
model takes them as a list, and `SendsFit` states what `send` guarantees of each one (a failure,
or a count from 1 to the bytes offered), the environment hypothesis of the contract.

`sendHttpResponse_delivers` is that contract: the response bytes are the status line, the header
lines each after a `\r\n`, the blank line and the body (`responseBytes_eq`); the calls' accepted
chunks are non-empty, their concatenation is a prefix of those bytes, all of them unless a call
fails, and the loop reads exactly one result per chunk and then at most the one failure. It is `sendLoop_spec` from
offset 0, proved by induction on the results with the offset `sent` as the loop's only local.
-/

namespace CefHostBridge

/-- `StatusText`. -/
def statusText : Nat → Bytes
  | 200 => lit "OK"
  | 400 => lit "Bad Request"
  | 404 => lit "Not Found"
  | 500 => lit "Internal Server Error"
  | 501 => lit "Not Implemented"
  | _ => lit "OK"

/-- The bytes of `SendHttpResponse`: `header.str() + body`. -/
def responseBytes (status : Nat) (content_type body : Bytes) : Bytes :=
  lit "HTTP/1.1 " ++ dec status ++ lit " " ++ statusText status ++ lit "\r\n" ++
    lit "Content-Type: " ++ content_type ++ lit "\r\n" ++
    lit "Content-Length: " ++ dec body.length ++ lit "\r\n" ++
    lit "Connection: close\r\n" ++ lit "\r\n" ++ body

/-- The status line of `SendHttpResponse`: `HTTP/1.1 <status> <text>`. -/
def statusLine (status : Nat) : Bytes := lit "HTTP/1.1 " ++ dec status ++ lit " " ++ statusText status

/-- The header lines that `SendHttpResponse` writes after the status line, as name and value. -/
def responseHeaders (content_type : Bytes) (length : Nat) : List (Bytes × Bytes) :=
  [(lit "Content-Type", content_type), (lit "Content-Length", dec length),
    (lit "Connection", lit "close")]

/-- The bytes of a response: the status line, each header line after a `\r\n`, the blank line and
the body. -/
theorem responseBytes_eq (status : Nat) (content_type body : Bytes) :
    responseBytes status content_type body = statusLine status ++
      (((responseHeaders content_type body.length).map headerLine).flatMap (fun l => 13 :: 10 :: l) ++
        headerTerminator ++ body) := by
  simp only [responseBytes, statusLine, responseHeaders, List.map_cons, List.map_nil,
    List.flatMap_cons, List.flatMap_nil, headerLine, List.append_assoc, List.cons_append,
    List.nil_append, List.append_nil]
  rfl

/-- The `send` loop from offset `sent`, over the results of its calls: the bytes that each call
accepted, in order, and the results it did not read; `none` when it would call `send` after the
last result given. -/
def sendLoop (bytes : Bytes) (sent : Nat) : List Int → Option (List Bytes × List Int)
  | ns =>
    if sent < bytes.length then
      match ns with
      | [] => none
      | n :: ns =>
        if n ≤ 0 then some ([], ns)
        else (sendLoop bytes (sent + n.toNat) ns).map fun r => ((bytes.drop sent).take n.toNat :: r.1, r.2)
    else some ([], ns)

/-- `SendHttpResponse` on the results of its `send` calls. -/
def sendHttpResponse (status : Nat) (content_type body : Bytes) (sends : List Int) :
    Option (List Bytes × List Int) :=
  sendLoop (responseBytes status content_type body) 0 sends

/-- What `send` returns to the loop: each result it reads is a failure (`n <= 0`) or a count from
1 to the number of bytes that the call offers. -/
def SendsFit (bytes : Bytes) (sent : Nat) : List Int → Prop
  | [] => True
  | n :: ns => sent < bytes.length →
      n ≤ 0 ∨ (n ≤ (bytes.length - sent : Nat) ∧ SendsFit bytes (sent + n.toNat) ns)

/-- The length of each accepted chunk as the count that `send` returned. -/
def chunkCounts (chunks : List Bytes) : List Int := chunks.map fun c => (c.length : Int)

/-- **The loop from any offset.** With results that fit and at least one per byte left, the loop
ends; its chunks are non-empty and spell a prefix of the bytes from `sent`, and it reads one
result per chunk, then either stops at the end of the bytes or reads one failure. -/
theorem sendLoop_spec (bytes : Bytes) : ∀ (ns : List Int) (sent : Nat), sent ≤ bytes.length →
    SendsFit bytes sent ns → bytes.length - sent ≤ ns.length →
    ∃ chunks rest used, sendLoop bytes sent ns = some (chunks, rest) ∧ ns = used ++ rest ∧
      chunks.flatten <+: bytes.drop sent ∧ (∀ c ∈ chunks, c ≠ []) ∧
      ((chunks.flatten = bytes.drop sent ∧ used = chunkCounts chunks) ∨
        (chunks.flatten ≠ bytes.drop sent ∧ ∃ n ≤ 0, used = chunkCounts chunks ++ [n]))
  | [], sent, hs, _, hlen => by
    have hend : ¬sent < bytes.length := by simp at hlen; omega
    refine ⟨[], [], [], by rw [sendLoop, if_neg hend], rfl, by simp, by simp, .inl ⟨?_, rfl⟩⟩
    simp [List.drop_eq_nil_of_le (Nat.not_lt.mp hend)]
  | n :: ns, sent, hs, hfit, hlen => by
    by_cases hlt : sent < bytes.length
    · have hne : bytes.drop sent ≠ [] := by simp [List.drop_eq_nil_iff]; omega
      by_cases hn0 : n ≤ 0
      · refine ⟨[], ns, [n], by rw [sendLoop, if_pos hlt]; exact if_pos hn0, rfl, by simp, by simp,
          .inr ⟨by simpa using hne.symm, n, hn0, rfl⟩⟩
      obtain ⟨hn, hfit⟩ := (hfit hlt).resolve_left hn0
      obtain ⟨chunks, rest, used, hloop, rfl, hpre, hnil, hcases⟩ :=
        sendLoop_spec bytes ns (sent + n.toNat) (by omega) hfit (by simp at hlen; omega)
      -- the chunk that this call accepted, and the bytes after it
      have hsplit : bytes.drop sent =
          (bytes.drop sent).take n.toNat ++ bytes.drop (sent + n.toNat) := by
        rw [← List.drop_drop, List.take_append_drop]
      set c := (bytes.drop sent).take n.toNat with hcdef
      have hc : c.length = n.toNat := by simp only [hcdef, List.length_take, List.length_drop]; omega
      have hcount : chunkCounts (c :: chunks) = n :: chunkCounts chunks := by
        simp only [chunkCounts, List.map_cons, hc]
        congr 1
        omega
      refine ⟨c :: chunks, rest, n :: used, ?_, rfl, ?_, ?_, ?_⟩
      · rw [sendLoop, if_pos hlt]
        simp only [if_neg hn0, hloop, Option.map_some']
      · rw [List.flatten_cons, hsplit]
        exact (List.prefix_append_right_inj c).mpr hpre
      · rintro d (_ | ⟨_, hd⟩)
        · rw [← List.length_pos, hc]; omega
        · exact hnil d hd
      · rw [List.flatten_cons, hcount, hsplit]
        rcases hcases with ⟨heq, rfl⟩ | ⟨hne', m, hm, rfl⟩
        · exact .inl ⟨by rw [heq], rfl⟩
        · exact .inr ⟨fun h => hne' (List.append_cancel_left h), m, hm, rfl⟩
    · refine ⟨[], n :: ns, [], by rw [sendLoop, if_neg hlt], rfl, by simp, by simp, .inl ⟨?_, rfl⟩⟩
      simp [List.drop_eq_nil_of_le (Nat.not_lt.mp hlt)]

/-- **`SendHttpResponse` sends a prefix of its response, each byte once and in order.** For every
status, content type and body, the response `R` is the status line, the lines `Content-Type`,
`Content-Length` with the body's length and `Connection: close`, each after a `\r\n`, the blank
line and the body. For every list of `send` results that fit, at least one per byte of `R`, the
loop ends. The chunks that the calls accepted are non-empty and spell a prefix of `R`, all of it
unless a call fails; the loop reads one result per chunk, the chunk's length, and then stops at
the end of the response or after one failure, so that it calls `send` neither after a failure nor
after the last byte. -/
theorem sendHttpResponse_delivers (status : Nat) (content_type body : Bytes) (sends : List Int)
    (hfit : SendsFit (responseBytes status content_type body) 0 sends)
    (hlen : (responseBytes status content_type body).length ≤ sends.length) :
    responseBytes status content_type body = statusLine status ++
      (((responseHeaders content_type body.length).map headerLine).flatMap (fun l => 13 :: 10 :: l) ++
        headerTerminator ++ body) ∧
    ∃ chunks rest used, sendHttpResponse status content_type body sends = some (chunks, rest) ∧
      sends = used ++ rest ∧ chunks.flatten <+: responseBytes status content_type body ∧
      (∀ c ∈ chunks, c ≠ []) ∧
      ((chunks.flatten = responseBytes status content_type body ∧ used = chunkCounts chunks) ∨
        (chunks.flatten ≠ responseBytes status content_type body ∧
          ∃ n ≤ 0, used = chunkCounts chunks ++ [n])) := by
  exact ⟨responseBytes_eq status content_type body,
    by simpa using sendLoop_spec _ sends 0 (Nat.zero_le _) hfit (by simpa using hlen)⟩

/-- The results after the last byte are never read, so any of them fit. -/
theorem sendsFit_of_le {bytes : Bytes} {sent : Nat} (h : bytes.length ≤ sent) :
    ∀ ns, SendsFit bytes sent ns
  | [] => trivial
  | _ :: _ => fun hlt => absurd hlt (Nat.not_lt.mpr h)

/-- A `200` with the body `{}` whose first `send` takes all of it. -/
theorem sendHttpResponse_one_call :
    ∃ chunks rest, sendHttpResponse 200 json (lit "\x7b\x7d")
      (((responseBytes 200 json (lit "\x7b\x7d")).length : Int) ::
        List.replicate (responseBytes 200 json (lit "\x7b\x7d")).length 0) = some (chunks, rest) := by
  obtain ⟨-, chunks, rest, -, h, -⟩ := sendHttpResponse_delivers 200 json (lit "\x7b\x7d")
    (((responseBytes 200 json (lit "\x7b\x7d")).length : Int) ::
      List.replicate (responseBytes 200 json (lit "\x7b\x7d")).length 0)
    (fun _ => .inr ⟨by simp, sendsFit_of_le (by simp) _⟩) (by simp)
  exact ⟨chunks, rest, h⟩

end CefHostBridge
