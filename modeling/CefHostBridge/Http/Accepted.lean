import CefHostBridge.Http.Parse

/-!
# What `ParseHttpRequest` accepts

`ParseHttpRequest` returns `true` for any raw request whose head holds `\r\n\r\n` and whose first
line has three words, whatever else it holds. It never checks the rest, but the way it builds
`HttpRequest` gives every request it fills a shape that the routes rely on (`Accepted`). The body
is exactly the bytes after the first `\r\n\r\n`. The method is a non-empty word in lower case, so
`req.method == "get"` matches `GET` as well. The path is a word cut before its first `?`. The header
map holds each name once, in lower case and without `:` or line feed, so `find("content-type")`
finds the header whatever case the client used. Each value holds no line feed and no leading white
space.

`parseHttpRequest_accepted` proves it for every raw request. The header map is built by the header
loop, one `std::map` assignment per line: `addHeaderLine_ok` is the step, and `foldl_addHeader_ok`
carries it over the lines. `std::getline` and `>>` contribute what their pieces hold
(`getlines_not_mem`, `words_plain`).
-/

namespace CefHostBridge

/-- A byte that `std::tolower` changes: `A` to `Z`. -/
def isUpper (c : UInt8) : Bool := 65 ≤ c.toNat && c.toNat ≤ 90

/-- An entry of the header map as the header loop leaves it: a name in lower case without `:` or
line feed, and a value without line feed that does not start with white space. -/
structure HeaderOk (e : Bytes × Bytes) : Prop where
  name : ∀ c ∈ e.1, isUpper c = false ∧ c ≠ 58 ∧ c ≠ 10
  value_start : ∀ c ∈ e.2.head?, isSpace c = false
  value : (10 : UInt8) ∉ e.2

/-- A header map as the header loop leaves it: every entry as above, and each name once. -/
structure HeadersOk (d : Dict) : Prop where
  entries : ∀ e ∈ d, HeaderOk e
  nodup : (d.map Prod.fst).Nodup

/-- What a request that `ParseHttpRequest` accepts is, and what it fills in. -/
structure Accepted (raw : Bytes) (req : HttpRequest) : Prop where
  split : ∃ he, find headerTerminator raw = some he ∧ raw = raw.take he ++ headerTerminator ++ req.body
  method_ne : req.method ≠ []
  method : ∀ c ∈ req.method, isSpace c = false ∧ isUpper c = false
  path : ∀ c ∈ req.path, isSpace c = false ∧ c ≠ 63
  headers : HeadersOk req.headers

/-! ## The pieces of the stream -/

/-- No line of `std::getline` holds its delimiter. -/
theorem getlines_go_not_mem {delim : UInt8} :
    ∀ (s acc : Bytes), delim ∉ acc → ∀ l ∈ getlines.go delim s acc, delim ∉ l
  | [], [], _, l, hl => by simp [getlines.go] at hl
  | [], a :: acc, h, l, hl => by
    simp only [getlines.go, List.mem_singleton] at hl
    exact hl ▸ fun hm => h (List.mem_reverse.mp hm)
  | c :: s, acc, h, l, hl => by
    unfold getlines.go at hl
    by_cases hc : c = delim
    · rw [if_pos hc, List.mem_cons] at hl
      rcases hl with rfl | hl
      · exact fun hm => h (List.mem_reverse.mp hm)
      · exact getlines_go_not_mem s [] (List.not_mem_nil _) l hl
    · rw [if_neg hc] at hl
      exact getlines_go_not_mem s (c :: acc)
        (fun hm => (List.mem_cons.mp hm).elim (fun e => hc e.symm) h) l hl

/-- No line of `std::getline` holds its delimiter. -/
theorem getlines_not_mem {delim : UInt8} {s l : Bytes} (hl : l ∈ getlines delim s) : delim ∉ l :=
  getlines_go_not_mem s [] (List.not_mem_nil _) l hl

/-- A word of `>>` is not empty and holds no white space. -/
theorem words_go_plain :
    ∀ (s acc : Bytes), (∀ c ∈ acc, isSpace c = false) →
      ∀ w ∈ words.go s acc, w ≠ [] ∧ ∀ c ∈ w, isSpace c = false
  | [], [], _, w, hw => by simp [words.go] at hw
  | [], a :: acc, h, w, hw => by
    simp only [words.go, List.mem_singleton] at hw
    subst hw
    exact ⟨by simp, fun c hc => h c (List.mem_reverse.mp hc)⟩
  | c :: s, acc, h, w, hw => by
    unfold words.go at hw
    by_cases hc : isSpace c = true
    · rw [if_pos hc] at hw
      by_cases ha : acc = []
      · rw [if_pos ha] at hw
        exact words_go_plain s [] (by simp) w hw
      · rw [if_neg ha, List.mem_cons] at hw
        rcases hw with rfl | hw
        · exact ⟨by simpa using ha, fun c hc => h c (List.mem_reverse.mp hc)⟩
        · exact words_go_plain s [] (by simp) w hw
    · rw [if_neg hc] at hw
      exact words_go_plain s (c :: acc) (by simpa [hc] using h) w hw

/-- A word of `>>` is not empty and holds no white space. -/
theorem words_plain {s w : Bytes} (hw : w ∈ words s) : w ≠ [] ∧ ∀ c ∈ w, isSpace c = false :=
  words_go_plain s [] (by simp) w hw

/-- `std::tolower` leaves no upper-case byte, and keeps white space, `:` and line feed as they
are. -/
theorem toLower_plain (c : UInt8) : isUpper (toLower c) = false ∧
    isSpace (toLower c) = isSpace c ∧ (toLower c = 58 ↔ c = 58) ∧ (toLower c = 10 ↔ c = 10) := by
  unfold toLower
  split_ifs with h
  · have hv : (UInt8.ofNat (c.toNat + 32)).toNat = c.toNat + 32 :=
      UInt8.toNat_ofNat_of_lt (by unfold UInt8.size; omega)
    have hs : ∀ n : Nat, 33 ≤ n → (n == 32 || decide (9 ≤ n) && decide (n ≤ 13)) = false :=
      fun n hn => by simp; omega
    simp only [isUpper, isSpace, byte_eq_iff, hv, hs _ (by omega : 33 ≤ c.toNat + 32),
      hs _ (by omega : 33 ≤ c.toNat)]
    simp
    omega
  · simp only [isUpper, iff_self, and_true, Bool.and_eq_false_iff, decide_eq_false_iff_not]
    omega

/-- A word lowered by `ToLowerAscii` holds no upper-case byte and no white space. -/
theorem toLowerAscii_plain {w : Bytes} (hw : ∀ c ∈ w, isSpace c = false) :
    ∀ c ∈ toLowerAscii w, isSpace c = false ∧ isUpper c = false := by
  simp only [toLowerAscii, List.mem_map]
  rintro _ ⟨c, hc, rfl⟩
  obtain ⟨hu, hs, -⟩ := toLower_plain c
  exact ⟨hs.trans (hw c hc), hu⟩

/-! ## The header loop -/

/-- `m[k] = v` keeps each name once. -/
theorem Dict.nodup_assign {d : Dict} (h : (d.map Prod.fst).Nodup) (k v : Bytes) :
    ((d.assign k v).map Prod.fst).Nodup := by
  simp only [Dict.assign, List.map_cons, List.nodup_cons, List.mem_map, List.mem_filter]
  exact ⟨fun ⟨e, ⟨_, he⟩, hk⟩ => by simp [hk] at he,
    h.sublist ((List.filter_sublist d).map Prod.fst)⟩

/-- `m[k] = v` with an entry as the header loop leaves it keeps the map as it leaves it. -/
theorem HeadersOk.assign {d : Dict} (hd : HeadersOk d) {k v : Bytes} (he : HeaderOk (k, v)) :
    HeadersOk (d.assign k v) where
  entries e hm := by
    rcases List.mem_cons.mp hm with rfl | hm
    · exact he
    · exact hd.entries e (List.mem_filter.mp hm).1
  nodup := Dict.nodup_assign hd.nodup k v

/-- **The step of the header loop.** A line without line feed keeps the header map as the loop
leaves it: the name is the lowered text before the first `:`, and the value the text after it
without its leading white space. -/
theorem addHeaderLine_ok {d : Dict} (hd : HeadersOk d) {line : Bytes} (hl : (10 : UInt8) ∉ line) :
    HeadersOk (addHeaderLine d line) := by
  unfold addHeaderLine
  rw [find_single_eq]
  by_cases hc : (58 : UInt8) ∈ line
  · rw [if_pos hc]
    refine hd.assign ⟨?_, ?_, ?_⟩
    · have htake : line.take (line.takeWhile (· != 58)).length = line.takeWhile (· != 58) :=
        (List.prefix_iff_eq_take.mp (List.takeWhile_prefix _)).symm
      simp only [htake, toLowerAscii, List.mem_map]
      rintro _ ⟨c, hm, rfl⟩
      obtain ⟨hu, -, h58, h10⟩ := toLower_plain c
      have hne : c ≠ 58 := by simpa using List.mem_takeWhile_imp hm
      exact ⟨hu, fun e => hne (h58.mp e),
        fun e => hl (h10.mp e ▸ (List.takeWhile_prefix _).subset hm)⟩
    · have := List.head?_dropWhile_not isSpace (line.drop ((line.takeWhile (· != 58)).length + 1))
      intro c hc'
      rw [hc'] at this
      exact this
    · exact fun hm => hl ((List.drop_subset _ _) ((List.dropWhile_suffix _).subset hm))
  · rw [if_neg hc]
    exact hd

/-- The header loop, line after line: lines without line feed leave the map as the loop leaves
it. -/
theorem foldl_addHeader_ok : ∀ (ls : List Bytes) {d : Dict}, HeadersOk d →
    (∀ l ∈ ls, (10 : UInt8) ∉ l) → HeadersOk (ls.foldl addHeader d)
  | [], _, hd, _ => hd
  | l :: ls, _, hd, hl => by
    have hcr : (10 : UInt8) ∉ dropCR l := by
      unfold dropCR
      split_ifs
      · exact fun hm => hl l (List.mem_cons_self _ _) (List.dropLast_subset _ hm)
      · exact hl l (List.mem_cons_self _ _)
    exact foldl_addHeader_ok ls (addHeaderLine_ok hd hcr) fun x hx =>
      hl x (List.mem_cons_of_mem _ hx)

/-! ## The request -/

/-- The first `\r\n\r\n` of a request cuts it into the head, the terminator and the rest. -/
theorem eq_take_terminator_drop {raw : Bytes} {he : Nat} (h : find headerTerminator raw = some he) :
    raw = raw.take he ++ headerTerminator ++ raw.drop (he + 4) := by
  obtain ⟨-, ⟨t, ht⟩, -⟩ := find_eq_some_iff.mp h
  have hdrop : raw.drop (he + 4) = t := by
    rw [← List.drop_drop, ← ht]
    simp [headerTerminator]
  rw [hdrop, List.append_assoc, ht, List.take_append_drop]

/-- **`ParseHttpRequest` accepts only well-formed requests.** For every raw request that
`ParseHttpRequest` accepts, the body it fills in is exactly the bytes after the first `\r\n\r\n`;
the method is a non-empty word in lower case; the path holds no white space and no `?`; and the
header map holds each name once, in lower case and without `:` or line feed, with values that hold
no line feed and do not start with white space. -/
theorem parseHttpRequest_accepted (raw : Bytes) (req : HttpRequest)
    (h : parseHttpRequest raw = some req) : Accepted raw req := by
  unfold parseHttpRequest at h
  split at h
  · cases h
  rename_i he hhe
  split at h
  · cases h
  rename_i line rest hlines
  split at h
  · rename_i method target _ _ hw
    cases h
    have hm := words_plain (s := dropCR line) (w := method) (by rw [hw]; simp)
    have ht := words_plain (s := dropCR line) (w := target) (by rw [hw]; simp)
    refine ⟨⟨he, hhe, eq_take_terminator_drop hhe⟩, by simpa [toLowerAscii] using hm.1,
      toLowerAscii_plain hm.2, ?_, ?_⟩
    · rw [splitTarget_eq]
      intro c hc
      exact ⟨ht.2 c ((List.takeWhile_prefix _).subset hc), by simpa using List.mem_takeWhile_imp hc⟩
    · exact foldl_addHeader_ok rest ⟨by simp, by simp⟩ fun l hl =>
        getlines_not_mem (hlines ▸ List.mem_cons_of_mem _ hl)
  · cases h

/-- `GET /status HTTP/1.1` with a `Host` header. -/
def statusRequest : Bytes := lit "GET /status HTTP/1.1\r\nHost: a\r\n\r\n"

/-- `GET /status HTTP/1.1` is accepted, with the method `get` and the header name `host`. -/
theorem statusRequest_accepted :
    parseHttpRequest statusRequest =
        some ⟨lit "get", lit "/status", [], [(lit "host", lit "a")], [], []⟩ ∧
      Accepted statusRequest ⟨lit "get", lit "/status", [], [(lit "host", lit "a")], [], []⟩ :=
  ⟨rfl, parseHttpRequest_accepted statusRequest _ rfl⟩

end CefHostBridge
