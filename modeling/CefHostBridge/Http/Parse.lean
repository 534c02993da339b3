import CefHostBridge.Http.Read
import CefHostBridge.Codec.Url

/-!
# `ParseHttpRequest`

`ParseHttpRequest` cuts the raw request at its first `\r\n\r\n` into the head and the body, reads
the head's first line with `std::getline` and splits it with `>>` into method, target and version,
splits the target at its first `?` into path and query, enters every later line that has a `:`
into the header map under its lowercased name, and parses the body as a form when the
`Content-Type` says `application/x-www-form-urlencoded`.

`parseHttpRequest_requestBytes` is its contract on well-formed requests: a request line of three
words, header lines `k: x` without line breaks, and any body, are parsed back into exactly those
parts. The head's first `\r\n\r\n` is the one after the last header line, because every line is
non-empty and holds no line break (`find_terminator_lines`); `std::getline` then gives the lines
back with their `\r` (`getlines_crlf_lines`), `>>` the three words, and the header loop one map
update per line (`addHeaderLine_entry`).
-/

namespace CefHostBridge

/-- `HttpRequest`. -/
structure HttpRequest where
  method : Bytes
  path : Bytes
  query : Dict
  headers : Dict
  form : Dict
  body : Bytes

/-- The body of the header loop of `ParseHttpRequest` on a line whose `\r` is dropped: a line
with a `:` sets the lowercased name to the value with its leading spaces erased. -/
def addHeaderLine (headers : Dict) (line : Bytes) : Dict :=
  match find [58] line with
  | none => headers
  | some colon =>
    headers.assign (toLowerAscii (line.take colon)) ((line.drop (colon + 1)).dropWhile isSpace)

/-- One turn of the header loop of `ParseHttpRequest`. -/
def addHeader (headers : Dict) (line : Bytes) : Dict := addHeaderLine headers (dropCR line)

/-- The target split at its first `?` into the path and the parsed query. -/
def splitTarget (target : Bytes) : Bytes × Dict :=
  match find [63] target with
  | none => (target, [])
  | some q => (target.take q, parseUrlEncoded (target.drop (q + 1)))

/-- The form of a request: its body parsed when the lowercased `content-type` value contains
`application/x-www-form-urlencoded`, and empty otherwise. -/
def parseForm (headers : Dict) (body : Bytes) : Dict :=
  match headers.find? (lit "content-type") with
  | some ct =>
    if (find (lit "application/x-www-form-urlencoded") (toLowerAscii ct)).isSome then
      parseUrlEncoded body else []
  | none => []

/-- `ParseHttpRequest`: `none` where it returns `false`. -/
def parseHttpRequest (raw : Bytes) : Option HttpRequest :=
  match find headerTerminator raw with
  | none => none
  | some header_end =>
    match getlines 10 (raw.take header_end) with
    | [] => none
    | line :: rest =>
      match words (dropCR line) with
      | method :: target :: _ :: _ =>
        let headers := rest.foldl addHeader []
        let body := raw.drop (header_end + 4)
        some { method := toLowerAscii method, path := (splitTarget target).1,
               query := (splitTarget target).2, headers, form := parseForm headers body, body }
      | _ => none

/-- The header line `k: x`. -/
def headerLine (p : Bytes × Bytes) : Bytes := p.1 ++ 58 :: 32 :: p.2

/-- The bytes of a request: the line `m t v`, the header lines `k: x`, each ended by `\r\n`, a
blank line, and the body `b`. -/
def requestBytes (m t v : Bytes) (hs : List (Bytes × Bytes)) (b : Bytes) : Bytes :=
  m ++ 32 :: t ++ 32 :: v ++ [13, 10] ++ hs.flatMap (fun p => headerLine p ++ [13, 10]) ++
    [13, 10] ++ b

/-- The entry that `parseHttpRequest_requestBytes` gives a header line `k: x`: the lowercased
name, and the value without its leading whitespace. -/
def headerEntry (p : Bytes × Bytes) : Bytes × Bytes := (toLowerAscii p.1, p.2.dropWhile isSpace)

/-- A stretch without `\r` shifts the first `\r\n\r\n` by its length. -/
theorem find_terminator_append {a : Bytes} (ha : (13 : UInt8) ∉ a) (r : Bytes) :
    find headerTerminator (a ++ r) = (find headerTerminator r).map (· + a.length) := by
  refine find_append_of_not_isPrefix a r fun i hi hp => ha ?_
  rw [List.drop_append_of_le_length hi.le, List.drop_eq_getElem_cons hi] at hp
  simp only [headerTerminator, List.cons_append, List.cons_prefix_cons] at hp
  exact hp.1 ▸ List.getElem_mem hi

/-- Lines that are not empty and hold no `\r`, each after a `\r\n`, hold no `\r\n\r\n`: the
first one is the blank line after them. -/
theorem find_terminator_lines (rest : Bytes) :
    ∀ (ls : List Bytes), (∀ l ∈ ls, l ≠ [] ∧ (13 : UInt8) ∉ l) →
      find headerTerminator (ls.flatMap (fun l => 13 :: 10 :: l) ++ headerTerminator ++ rest) =
        some (ls.flatMap (fun l => 13 :: 10 :: l)).length
  | [], _ => find_of_isPrefix (by simp)
  | l :: ls, h => by
    obtain ⟨hne, hcr⟩ := h l (List.mem_cons_self _ _)
    obtain ⟨c, l', rfl⟩ := List.exists_cons_of_ne_nil hne
    have hc : c ≠ 13 := fun e => hcr (e ▸ List.mem_cons_self _ _)
    have ih := find_terminator_lines rest ls (fun x hx => h x (List.mem_cons_of_mem _ hx))
    simp only [List.flatMap_cons, List.append_assoc, List.cons_append] at ih ⊢
    rw [find_cons_of_not_isPrefix (by simp [headerTerminator, hc.symm]),
      find_cons_of_not_isPrefix (by simp [headerTerminator]),
      ← List.cons_append, find_terminator_append hcr, ih]
    simp
    omega

/-- A line without `\r` keeps its last byte. -/
theorem dropCR_of_not_mem {a : Bytes} (h : (13 : UInt8) ∉ a) : dropCR a = a := by
  unfold dropCR
  split_ifs with hl
  · exact absurd (List.mem_of_getLast?_eq_some hl) h
  · rfl

/-- `std::getline` at `\n` gives back lines joined by `\r\n`, each with its `\r`, and the
loops' `pop_back` of that `\r` gives the lines themselves. -/
theorem getlines_crlf_lines :
    ∀ (ls : List Bytes) (a : Bytes), a ≠ [] → (10 : UInt8) ∉ a → (13 : UInt8) ∉ a →
      (∀ l ∈ ls, l ≠ [] ∧ (10 : UInt8) ∉ l ∧ (13 : UInt8) ∉ l) →
      (getlines 10 (a ++ ls.flatMap (fun l => 13 :: 10 :: l))).map dropCR = a :: ls
  | [], a, hne, hlf, hcr, _ => by
    rw [List.flatMap_nil, List.append_nil, getlines_of_not_mem hlf hne]
    simp [dropCR_of_not_mem hcr]
  | l :: ls, a, _, hlf, _, h => by
    obtain ⟨hne', hlf', hcr'⟩ := h l (List.mem_cons_self _ _)
    have hsplit : a ++ (l :: ls).flatMap (fun l => 13 :: 10 :: l) =
        (a ++ [13]) ++ 10 :: (l ++ ls.flatMap (fun l => 13 :: 10 :: l)) := by simp
    rw [hsplit, getlines_append_delim (by simpa using hlf), List.map_cons,
      getlines_crlf_lines ls l hne' hlf' hcr' (fun x hx => h x (List.mem_cons_of_mem _ hx))]
    simp [dropCR]

/-- A header line `k: x` whose name holds no `:` enters its `headerEntry`. -/
theorem addHeaderLine_entry (d : Dict) {p : Bytes × Bytes} (hk : (58 : UInt8) ∉ p.1) :
    addHeaderLine d (headerLine p) = d.assign (headerEntry p).1 (headerEntry p).2 := by
  simp [addHeaderLine, headerLine, headerEntry, find_single_append hk, isSpace]

/-- A one-byte pattern is found at the end of the stretch before its first occurrence. -/
theorem find_single_eq (c : UInt8) :
    ∀ t : Bytes, find [c] t = if c ∈ t then some (t.takeWhile (· != c)).length else none
  | [] => rfl
  | d :: t => by
    by_cases hd : d = c
    · subst hd
      simp [find_of_isPrefix]
    · have hne : ¬[c] <+: d :: t := by simpa using Ne.symm hd
      rw [find_cons_of_not_isPrefix hne, find_single_eq c t]
      by_cases hc : c ∈ t <;> simp [hc, hd, Ne.symm hd]

/-- The target's path is the part before its first `?`, and its query the rest after it. -/
theorem splitTarget_eq (t : Bytes) :
    splitTarget t = (t.takeWhile (· != 63),
      if (63 : UInt8) ∈ t then parseUrlEncoded (t.dropWhile (· != 63)).tail else []) := by
  rw [splitTarget, find_single_eq]
  by_cases hq : (63 : UInt8) ∈ t
  · have ht := List.takeWhile_append_dropWhile (· != (63 : UInt8)) t
    generalize t.takeWhile (· != 63) = tw at *
    generalize t.dropWhile (· != 63) = dw at *
    subst ht
    simp [hq, List.take_left, ← List.drop_drop, List.drop_left]
  · have hall : t.takeWhile (· != 63) = t := List.takeWhile_eq_self_iff.mpr fun x hx => by
      simp only [bne_iff_ne, ne_eq]
      rintro rfl
      exact hq hx
    simp [hq, hall]

/-- `\r\n` after each line is `\r\n` before each line, moved to the end. -/
theorem crlf_rotate :
    ∀ ls : List Bytes, [13, 10] ++ ls.flatMap (fun l => l ++ [13, 10]) =
      ls.flatMap (fun l => 13 :: 10 :: l) ++ [13, 10]
  | [] => rfl
  | l :: ls => by simp [crlf_rotate ls]

/-- The bytes of a request as the request line, then each header line after a `\r\n`, then the
terminator and the body. -/
theorem requestBytes_eq (m t v : Bytes) (hs : List (Bytes × Bytes)) (b : Bytes) :
    requestBytes m t v hs b = (m ++ 32 :: t ++ 32 :: v) ++
      ((hs.map headerLine).flatMap (fun l => 13 :: 10 :: l) ++ headerTerminator ++ b) := by
  have h := crlf_rotate (hs.map headerLine)
  simp only [List.flatMap_map] at h
  simp only [requestBytes, List.append_assoc, headerTerminator]
  rw [← List.append_assoc [13, 10], h]
  simp [List.flatMap_map]

/-- The header loop over the lines `k: x` enters their `headerEntry`s, one after another. -/
theorem foldl_headerLine :
    ∀ (hs : List (Bytes × Bytes)) (d : Dict), (∀ p ∈ hs, (58 : UInt8) ∉ p.1) →
      (hs.map headerLine).foldl addHeaderLine d =
        (hs.map headerEntry).foldl (fun d e => d.assign e.1 e.2) d
  | [], _, _ => rfl
  | p :: hs, d, h => by
    simp only [List.map_cons, List.foldl_cons, addHeaderLine_entry d (h p (List.mem_cons_self _ _))]
    exact foldl_headerLine hs _ fun q hq => h q (List.mem_cons_of_mem _ hq)

/-- `\r` and `\n` are spaces for `std::isspace`. -/
theorem ne_cr_lf_of_isSpace {c : UInt8} (h : isSpace c = false) : c ≠ 13 ∧ c ≠ 10 := by
  constructor <;> rintro rfl <;> simp [isSpace] at h

/-- The request line holds no `\r` and no `\n`. -/
theorem requestLine_no_crlf {m t v : Bytes} (hspace : ∀ c ∈ m ++ t ++ v, isSpace c = false) :
    ∀ c ∈ m ++ 32 :: t ++ 32 :: v, c ≠ 13 ∧ c ≠ 10 := by
  intro c hc
  simp only [List.mem_append, List.mem_cons] at hc
  rcases hc with (hc | rfl | hc) | rfl | hc
  all_goals first | decide | exact ne_cr_lf_of_isSpace (hspace c (by simp [hc]))

/-- The words of the request line are the method, the target and the version. -/
theorem words_requestLine {m t v : Bytes} (hm : m ≠ []) (ht : t ≠ []) (hv : v ≠ [])
    (hspace : ∀ c ∈ m ++ t ++ v, isSpace c = false) :
    words (m ++ 32 :: t ++ 32 :: v) = [m, t, v] := by
  have hsm : ∀ c ∈ m, isSpace c = false := fun c hc => hspace c (by simp [hc])
  have hst : ∀ c ∈ t, isSpace c = false := fun c hc => hspace c (by simp [hc])
  have hsv : ∀ c ∈ v, isSpace c = false := fun c hc => hspace c (by simp [hc])
  rw [List.append_assoc, List.cons_append, words_append_space hsm hm (c := 32) (by decide),
    words_append_space hst ht (c := 32) (by decide), words_of_no_space hsv hv]

/-- Each header line `k: x` is non-empty and holds no `\n` and no `\r`. -/
theorem headerLine_no_crlf {hs : List (Bytes × Bytes)}
    (hk : ∀ p ∈ hs, (13 : UInt8) ∉ p.1 ∧ (10 : UInt8) ∉ p.1)
    (hx : ∀ p ∈ hs, (13 : UInt8) ∉ p.2 ∧ (10 : UInt8) ∉ p.2) :
    ∀ l ∈ hs.map headerLine, l ≠ [] ∧ (10 : UInt8) ∉ l ∧ (13 : UInt8) ∉ l := by
  intro l hl
  obtain ⟨p, hp, rfl⟩ := List.mem_map.mp hl
  obtain ⟨hk13, hk10⟩ := hk p hp
  obtain ⟨hx13, hx10⟩ := hx p hp
  simp [headerLine, hk13, hk10, hx13, hx10]

/-- **`ParseHttpRequest` on a well-formed request.** For a request line of three non-empty words
`m`, `t`, `v` without whitespace, header lines `k: x` whose names hold no `:` and no line break
and whose values hold no line break, and any body `b`, `ParseHttpRequest` succeeds with the
method `m` lowercased, the path and query of `t` split at its first `?`, the header map of the
lowercased names to the values without leading whitespace where later lines win, the body `b`
exactly, and the form parsed from `b` exactly when the resulting `content-type` contains
`application/x-www-form-urlencoded` in any case. -/
theorem parseHttpRequest_requestBytes (m t v b : Bytes) (hs : List (Bytes × Bytes))
    (hm : m ≠ []) (ht : t ≠ []) (hv : v ≠ [])
    (hspace : ∀ c ∈ m ++ t ++ v, isSpace c = false)
    (hk : ∀ p ∈ hs, (58 : UInt8) ∉ p.1 ∧ (13 : UInt8) ∉ p.1 ∧ (10 : UInt8) ∉ p.1)
    (hx : ∀ p ∈ hs, (13 : UInt8) ∉ p.2 ∧ (10 : UInt8) ∉ p.2) :
    ∃ req, parseHttpRequest (requestBytes m t v hs b) = some req ∧
      req.method = toLowerAscii m ∧
      req.path = t.takeWhile (· != 63) ∧
      req.query = (if (63 : UInt8) ∈ t then parseUrlEncoded (t.dropWhile (· != 63)).tail else []) ∧
      (∀ key, req.headers.find? key = (hs.map headerEntry).reverse.lookup key) ∧
      req.body = b ∧
      req.form = (match (hs.map headerEntry).reverse.lookup (lit "content-type") with
        | some ct =>
          if lit "application/x-www-form-urlencoded" <:+: toLowerAscii ct then parseUrlEncoded b
          else []
        | none => []) := by
  -- The request line and the header lines: non-empty, and without `\r` or `\n`.
  have hsp := requestLine_no_crlf hspace
  have hL0 : m ++ 32 :: t ++ 32 :: v ≠ [] := by simp [hm]
  have hwords := words_requestLine hm ht hv hspace
  have hlines := headerLine_no_crlf (fun p hp => (hk p hp).2) hx
  have hheaders := foldl_headerLine hs [] fun p hp => (hk p hp).1
  rw [requestBytes_eq]
  generalize m ++ 32 :: t ++ 32 :: v = L0 at hsp hL0 hwords
  generalize hs.map headerLine = ls at hlines hheaders
  -- The first `\r\n\r\n` is the one after the last header line.
  have hfind : find headerTerminator (L0 ++ (ls.flatMap (fun l => 13 :: 10 :: l) ++
      headerTerminator ++ b)) = some (L0 ++ ls.flatMap (fun l => 13 :: 10 :: l)).length := by
    rw [find_terminator_append (fun h => (hsp 13 h).1 rfl),
      find_terminator_lines b ls fun l hl => ⟨(hlines l hl).1, (hlines l hl).2.2⟩]
    simp [Nat.add_comm]
  obtain ⟨line, rest, hget, hline, hrest⟩ := List.map_eq_cons_iff.mp
    (getlines_crlf_lines _ _ hL0 (fun h => (hsp 10 h).2 rfl) (fun h => (hsp 13 h).1 rfl) hlines)
  have hsplit : L0 ++ (ls.flatMap (fun l => 13 :: 10 :: l) ++ headerTerminator ++ b) =
      (L0 ++ ls.flatMap (fun l => 13 :: 10 :: l)) ++ (headerTerminator ++ b) := by simp
  -- The header loop is the map update per line.
  have hlookup : ∀ key, (rest.foldl addHeader []).find? key =
      (hs.map headerEntry).reverse.lookup key := by
    intro key
    rw [← hrest, List.foldl_map] at hheaders
    rw [show rest.foldl addHeader [] = _ from hheaders, find?_foldl_assign]
    simp
  refine ⟨⟨toLowerAscii m, (splitTarget t).1, (splitTarget t).2, rest.foldl addHeader [],
      parseForm (rest.foldl addHeader []) b, b⟩,
    ?_, rfl, by rw [splitTarget_eq], by rw [splitTarget_eq], hlookup, rfl, ?_⟩
  · rw [parseHttpRequest, hfind, hsplit]
    dsimp only
    rw [List.take_left, List.drop_append, hget]
    simp only [hline, hwords]
    rfl
  · simp only [parseForm, hlookup]
    split
    · simp [find_isSome_iff_isInfix]
    · rfl

/-- `GET /open?url=a HTTP/1.1` with one `Host` header is well formed, and is parsed into the
method `get`, the path `/open` and the query `url=a`. -/
theorem parseHttpRequest_get_open :
    (lit "GET" ≠ [] ∧ lit "/open?url=a" ≠ [] ∧ lit "HTTP/1.1" ≠ [] ∧
      (∀ c ∈ lit "GET" ++ lit "/open?url=a" ++ lit "HTTP/1.1", isSpace c = false) ∧
      (∀ p ∈ [(lit "Host", lit "x")], (58 : UInt8) ∉ p.1 ∧ (13 : UInt8) ∉ p.1 ∧ (10 : UInt8) ∉ p.1) ∧
      (∀ p ∈ [(lit "Host", lit "x")], (13 : UInt8) ∉ p.2 ∧ (10 : UInt8) ∉ p.2)) ∧
    ∃ req, parseHttpRequest (requestBytes (lit "GET") (lit "/open?url=a") (lit "HTTP/1.1")
        [(lit "Host", lit "x")] []) = some req ∧
      req.method = lit "get" ∧ req.path = lit "/open" ∧ req.query.find? (lit "url") = some (lit "a") := by
  obtain ⟨req, h, hm, hp, hq, -⟩ := parseHttpRequest_requestBytes (lit "GET") (lit "/open?url=a")
    (lit "HTTP/1.1") [] [(lit "Host", lit "x")] (by decide) (by decide) (by decide) (by decide)
    (by decide) (by decide)
  exact ⟨by decide, req, h, hm.trans (by decide), hp.trans (by decide), by rw [hq]; decide⟩

end CefHostBridge
