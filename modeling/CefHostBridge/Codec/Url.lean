import CefHostBridge.Cpp.Stream

/-!
# `UrlDecode` and `ParseUrlEncoded`

`UrlDecode` turns `+` into a space and `%XY` into one byte when `strtol` reads the two bytes after
the `%` in base 16 up to their end; any other byte, and a `%` that does not pass that test, is
copied. `ParseUrlEncoded` splits its text at `&` with `std::getline`, skips empty pieces, splits
each piece at its first `=`, and enters the decoded key and value into a `std::map`, so that the
last occurrence of a key wins.

`parseUrlEncoded_join_lookup` is the round trip: whatever per-byte encoding a client chooses for
each key and value (the byte itself, `+` for a space, or `%` and two hexadecimal digits of either
case), the map that `ParseUrlEncoded` builds from the `&`-joined pairs sends each key to the value
of its last occurrence and has no other key. It is assembled from the decoding of one encoded
string (`urlDecode_of_urlEncodes`), the split at `&` (`getlines_intercalate`), the split of one
pair at its first `=` (`addPair_encoded`), and the map updates (`find?_foldl_assign`).

`specUrlDecode` is the decoder that the specification states, which decodes `%` only before two
hexadecimal digits. The `strtol` test of `UrlDecode` accepts more: a sign or white space before
one digit, and a NUL, before which `c_str()` ends an empty subject (`urlDecode_lenient_percent`).
-/

namespace CefHostBridge

/-- The test of `UrlDecode` on the two bytes `a` and `b` after a `%`: `strtol(hex.c_str(), &end,
16)` on them, and the byte `v & 0xFF` when `*end == '\0'`. -/
def hexByte (a b : UInt8) : Option UInt8 :=
  let hex := [a, b]
  let r := strtol (cStr hex) 16
  if atNul hex r.2 then some (UInt8.ofNat (r.1 % 256).toNat) else none

/-- `UrlDecode`: the loop over `text[i]`, one byte, or three for a decoded `%XY`, at a time. -/
def urlDecode : Bytes → Bytes
  | [] => []
  | c :: r =>
    if c = 43 then 32 :: urlDecode r
    else
      match r with
      | a :: b :: r' =>
        if c = 37 then
          match hexByte a b with
          | some v => v :: urlDecode r'
          | none => c :: urlDecode (a :: b :: r')
        else c :: urlDecode (a :: b :: r')
      | r => c :: urlDecode r

/-- One piece of `ParseUrlEncoded`'s loop: an empty piece is skipped, a piece without `=` is a
key with the empty value, and otherwise the first `=` splits key from value. -/
def addPair (out : Dict) (pair : Bytes) : Dict :=
  if pair = [] then out else
    match find [61] pair with
    | none => out.assign (urlDecode pair) []
    | some eq => out.assign (urlDecode (pair.take eq)) (urlDecode (pair.drop (eq + 1)))

/-- `ParseUrlEncoded`: the pieces between `&`, entered one after another. -/
def parseUrlEncoded (text : Bytes) : Dict := (getlines 38 text).foldl addPair []

/-! ## Decoding one encoded string -/

/-- The bytes that a client may not send as themselves inside a key or a value: `%`, `+`, `&`
and `=`. -/
def reserved : Bytes := [37, 43, 38, 61]

/-- `e` is a percent-encoding of `d`, byte by byte: each byte as itself when it is not reserved,
a space as `+`, or any byte as `%` and two hexadecimal digits, of either case, that give its
value. -/
inductive UrlEncodes : Bytes → Bytes → Prop
  | nil : UrlEncodes [] []
  | raw {c : UInt8} {e d : Bytes} : c ∉ reserved → UrlEncodes e d → UrlEncodes (c :: e) (c :: d)
  | plus {e d : Bytes} : UrlEncodes e d → UrlEncodes (43 :: e) (32 :: d)
  | percent {x y : UInt8} {e d : Bytes} : isDigitIn 16 x = true → isDigitIn 16 y = true →
      UrlEncodes e d → UrlEncodes (37 :: x :: y :: e) (UInt8.ofNat (16 * digitValue x + digitValue y) :: d)

/-- A hexadecimal digit is one of `0`-`9`, `a`-`f` or `A`-`F`. -/
theorem hexDigit_range {x : UInt8} (hx : isDigitIn 16 x = true) :
    (48 ≤ x.toNat ∧ x.toNat ≤ 57) ∨ (97 ≤ x.toNat ∧ x.toNat ≤ 102) ∨
      (65 ≤ x.toNat ∧ x.toNat ≤ 70) := by
  simp only [isDigitIn, digitValue, decide_eq_true_eq] at hx
  split_ifs at hx <;> omega

/-- The facts about a hexadecimal digit's byte that the scan of `strtol` and the split at `&`
and `=` use: it is no space, no NUL, no sign, and not reserved. -/
theorem hexDigit_facts {x : UInt8} (hx : isDigitIn 16 x = true) :
    isSpace x = false ∧ x ≠ 0 ∧ x ≠ 43 ∧ x ≠ 45 ∧ x ∉ reserved := by
  have hr := hexDigit_range hx
  simp only [isSpace, reserved, List.mem_cons, List.not_mem_nil, or_false, Ne, byte_eq_iff]
  simp
  omega

/-- Two hexadecimal digits are a whole subject sequence of base 16. -/
theorem scanInteger_hexPair {x y : UInt8} (hx : isDigitIn 16 x = true)
    (hy : isDigitIn 16 y = true) :
    scanInteger 16 [x, y] = some (false, 16 * digitValue x + digitValue y, 2) := by
  obtain ⟨hxs, -, hxp, hxm, -⟩ := hexDigit_facts hx
  have hpre : hexPrefix [x, y] = 0 := by unfold hexPrefix; split <;> simp_all
  simp only [scanInteger, List.takeWhile, hxs, List.length_nil, List.drop_zero,
    signOf_of_ne hxm hxp, hpre, if_true, hx, hy, List.takeWhile_nil, reduceCtorEq, if_false,
    digitsValue, List.foldl_cons, List.foldl_nil, List.length_cons, Option.some.injEq,
    Prod.mk.injEq, true_and, and_true]
  omega

/-- `strtol` reads two hexadecimal digits to their end, so `UrlDecode` takes them as one byte. -/
theorem hexByte_of_digits {x y : UInt8} (hx : isDigitIn 16 x = true) (hy : isDigitIn 16 y = true) :
    hexByte x y = some (UInt8.ofNat (16 * digitValue x + digitValue y)) := by
  have hx16 : digitValue x < 16 := by simpa [isDigitIn] using hx
  have hy16 : digitValue y < 16 := by simpa [isDigitIn] using hy
  have hc : cStr [x, y] = [x, y] := by
    simp [cStr, (hexDigit_facts hx).2.1, (hexDigit_facts hy).2.1]
  rw [hexByte, hc, strtol_of_scan (scanInteger_hexPair hx hy) (by omega)]
  simp only [atNul, List.cons_append, List.nil_append, List.getElem?_cons_succ,
    List.getElem?_cons_zero, beq_self_eq_true, if_true, Option.some.injEq]
  congr 1
  omega

/-- A byte that is neither `+` nor `%` is copied. -/
theorem urlDecode_cons_of_ne {c : UInt8} (h43 : c ≠ 43) (h37 : c ≠ 37) (r : Bytes) :
    urlDecode (c :: r) = c :: urlDecode r := by
  rcases r with _ | ⟨a, _ | ⟨b, r⟩⟩
  · exact if_neg h43
  · exact if_neg h43
  · exact (if_neg h43).trans (if_neg h37)

/-- A `+` is decoded to a space. -/
theorem urlDecode_plus (r : Bytes) : urlDecode (43 :: r) = 32 :: urlDecode r := by
  rcases r with _ | ⟨a, _ | ⟨b, r⟩⟩ <;> rfl

/-- A `%` before two bytes that `hexByte` reads is decoded to their value. -/
theorem urlDecode_percent {a b v : UInt8} (h : hexByte a b = some v) (r : Bytes) :
    urlDecode (37 :: a :: b :: r) = v :: urlDecode r :=
  (if_neg (by decide)).trans ((if_pos rfl).trans (by rw [h]))

/-- **`UrlDecode` inverts every percent-encoding.** -/
theorem urlDecode_of_urlEncodes {e d : Bytes} (h : UrlEncodes e d) : urlDecode e = d := by
  induction h with
  | nil => rfl
  | @raw c e d hc _ ih =>
    have h43 : c ≠ 43 := fun h => hc (by simp [reserved, h])
    have h37 : c ≠ 37 := fun h => hc (by simp [reserved, h])
    rw [urlDecode_cons_of_ne h43 h37, ih]
  | plus _ ih => rw [urlDecode_plus, ih]
  | percent hx hy _ ih => rw [urlDecode_percent (hexByte_of_digits hx hy), ih]

/-- An encoding holds no reserved byte other than the `%` and `+` of its escapes, and in
particular no `&` and no `=`. -/
theorem urlEncodes_no_sep {e d : Bytes} (h : UrlEncodes e d) : (38 : UInt8) ∉ e ∧ (61 : UInt8) ∉ e := by
  induction h with
  | nil => simp
  | @raw c e d hc _ ih =>
    refine ⟨?_, ?_⟩ <;> rintro (_ | ⟨_, hm⟩)
    · exact hc (by simp [reserved])
    · exact ih.1 hm
    · exact hc (by simp [reserved])
    · exact ih.2 hm
  | plus _ ih => simpa using ih
  | @percent x y e d hx hy _ ih =>
    have hxr := (hexDigit_facts hx).2.2.2.2
    have hyr := (hexDigit_facts hy).2.2.2.2
    simp only [reserved, List.mem_cons, not_or] at hxr hyr
    simp only [List.mem_cons, not_or]
    exact ⟨⟨by decide, Ne.symm hxr.2.2.1, Ne.symm hyr.2.2.1, ih.1⟩,
      ⟨by decide, Ne.symm hxr.2.2.2.1, Ne.symm hyr.2.2.2.1, ih.2⟩⟩

/-! ## Splitting and the map -/

/-- The join of two or more pieces starts with the first piece and a separator. -/
theorem intercalate_cons₂ (sep p q : Bytes) (ps : List Bytes) :
    List.intercalate sep (p :: q :: ps) = p ++ sep ++ List.intercalate sep (q :: ps) := by
  simp [List.intercalate, List.intersperse_cons_cons]

/-- `std::getline` at `delim` splits a join of non-empty pieces without `delim` back into them. -/
theorem getlines_intercalate (delim : UInt8) :
    ∀ (ps : List Bytes), (∀ p ∈ ps, delim ∉ p ∧ p ≠ []) →
      getlines delim (List.intercalate [delim] ps) = ps
  | [], _ => rfl
  | [p], h => by simpa [List.intercalate] using getlines_of_not_mem (h p (by simp)).1 (h p (by simp)).2
  | p :: q :: ps, h => by
    rw [intercalate_cons₂, List.append_assoc, List.singleton_append,
      getlines_append_delim (h p (by simp)).1,
      getlines_intercalate delim (q :: ps) (fun x hx => h x (List.mem_cons_of_mem _ hx))]

/-- One encoded pair is split at its `=` and decoded into key and value. -/
theorem addPair_encoded (out : Dict) {ek ev k v : Bytes} (hk : UrlEncodes ek k)
    (hv : UrlEncodes ev v) : addPair out (ek ++ 61 :: ev) = out.assign k v := by
  rw [addPair, if_neg (by simp), find_single_append (urlEncodes_no_sep hk).2]
  simp [urlDecode_of_urlEncodes hk, urlDecode_of_urlEncodes hv]

/-- Entering pairs one after another: the last occurrence of a key wins over the earlier ones and
over the map they started from. -/
theorem find?_foldl_assign (key : Bytes) :
    ∀ (ps : List (Bytes × Bytes)) (m : Dict),
      (ps.foldl (fun m p => m.assign p.1 p.2) m).find? key = (ps.reverse.lookup key).or (m.find? key)
  | [], m => by simp
  | (a, b) :: ps, m => by
    rw [List.foldl_cons, find?_foldl_assign key ps, Dict.find?_assign, List.reverse_cons,
      List.lookup_append, lookup_cons_eq]
    by_cases h : key = a <;> simp [h, Option.or_assoc]

/-- The encoded pairs of an encoding hold no `&` and are not empty, and entering them one after
another enters the decoded pairs. -/
theorem encoded_pairs {enc pairs : List (Bytes × Bytes)}
    (henc : List.Forall₂ (fun e p => UrlEncodes e.1 p.1 ∧ UrlEncodes e.2 p.2) enc pairs) :
    (∀ q ∈ enc.map (fun e => e.1 ++ 61 :: e.2), (38 : UInt8) ∉ q ∧ q ≠ []) ∧
      ∀ m : Dict, (enc.map fun e => e.1 ++ 61 :: e.2).foldl addPair m =
        pairs.foldl (fun m p => m.assign p.1 p.2) m := by
  induction henc with
  | nil => exact ⟨by simp, fun _ => rfl⟩
  | cons hp _ ih =>
    refine ⟨?_, fun m => ?_⟩
    · simp only [List.map_cons, List.mem_cons]
      rintro q (rfl | hq)
      · simp [(urlEncodes_no_sep hp.1).1, (urlEncodes_no_sep hp.2).1]
      · exact ih.1 q hq
    · simp [addPair_encoded m hp.1 hp.2, ih.2]

/-- **The round trip of `ParseUrlEncoded`.** For every list of key and value pairs and every
percent-encoding `enc` of its keys and values, the map parsed from the `&`-join of the encoded
`key=value` pairs sends each key to the value of its last occurrence, and has no other key. -/
theorem parseUrlEncoded_join_lookup (pairs enc : List (Bytes × Bytes))
    (henc : List.Forall₂ (fun e p => UrlEncodes e.1 p.1 ∧ UrlEncodes e.2 p.2) enc pairs)
    (key : Bytes) :
    (parseUrlEncoded (List.intercalate [38] (enc.map fun e => e.1 ++ 61 :: e.2))).find? key =
      pairs.reverse.lookup key := by
  obtain ⟨hsep, hfold⟩ := encoded_pairs henc
  rw [parseUrlEncoded, getlines_intercalate 38 _ hsep, hfold, find?_foldl_assign]
  simp

/-- `a=1&a=%32` is an encoding of the pairs `(a, 1)` and `(a, 2)`, and the second wins. -/
theorem parseUrlEncoded_last_pair_wins :
    List.Forall₂ (fun e p => UrlEncodes e.1 p.1 ∧ UrlEncodes e.2 p.2)
      [(lit "a", lit "1"), (lit "a", lit "%32")] [(lit "a", lit "1"), (lit "a", lit "2")] ∧
    (parseUrlEncoded (lit "a=1&a=%32")).find? (lit "a") = some (lit "2") := by
  have h : List.Forall₂ (fun e p => UrlEncodes e.1 p.1 ∧ UrlEncodes e.2 p.2)
      [(lit "a", lit "1"), (lit "a", lit "%32")] [(lit "a", lit "1"), (lit "a", lit "2")] :=
    .cons ⟨.raw (by decide) .nil, .raw (by decide) .nil⟩
      (.cons ⟨.raw (by decide) .nil, .percent (x := 51) (y := 50) rfl rfl .nil⟩ .nil)
  exact ⟨h, parseUrlEncoded_join_lookup _ _ h _⟩

/-! ## The decoder of the specification -/

/-- A hexadecimal digit in the words of the specification: `0`-`9`, `a`-`f` or `A`-`F`. -/
def isHexDigit (x : UInt8) : Bool :=
  decide ((48 ≤ x.toNat ∧ x.toNat ≤ 57) ∨ (97 ≤ x.toNat ∧ x.toNat ≤ 102) ∨
    (65 ≤ x.toNat ∧ x.toNat ≤ 70))

/-- The value of a hexadecimal digit. -/
def hexValue (x : UInt8) : Nat :=
  if x.toNat ≤ 57 then x.toNat - 48 else if x.toNat ≤ 70 then x.toNat - 55 else x.toNat - 87

/-- The decoder `D` that the specification states: `+` is a space, `%` and two hexadecimal digits
are the byte they spell, and every other byte, a `%` before anything else included, is copied. -/
def specUrlDecode : Bytes → Bytes
  | [] => []
  | 43 :: r => 32 :: specUrlDecode r
  | 37 :: a :: b :: r =>
    if isHexDigit a && isHexDigit b then UInt8.ofNat (16 * hexValue a + hexValue b) :: specUrlDecode r
    else 37 :: specUrlDecode (a :: b :: r)
  | c :: r => c :: specUrlDecode r

/-- `strtol` also takes a sign, leading white space, and an empty subject that ends at a NUL, so
`%-1`, `% 5` and `%` before a NUL are decoded where `D` copies them. -/
theorem urlDecode_lenient_percent :
    urlDecode (lit "%-1") = [255] ∧ specUrlDecode (lit "%-1") = lit "%-1" ∧
      urlDecode (lit "% 5") = [5] ∧ specUrlDecode (lit "% 5") = lit "% 5" ∧
      urlDecode [37, 0, 65] = [0] ∧ specUrlDecode [37, 0, 65] = [37, 0, 65] := by
  decide

end CefHostBridge
