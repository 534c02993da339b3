import CefHostBridge.Cpp.Bytes

/-!
# `std::stringstream` reading and the `strtol` family

The bridge reads its strings through a `std::stringstream` in two ways: `std::getline` with a
delimiter, which `ReadHttpRequest`, `ParseHttpRequest` and `ParseUrlEncoded` call until it fails,
and `>>` into a `std::string`, which splits the request line into words. Both are given here as the
whole list of pieces that the repeated calls return (`getlines`, `words`), each written with an
accumulator so that a stretch free of separators passes through in one lemma (`getlines_go_append`,
`words_go_append`). The numeric conversions `strtol` and `strtoull` share the scan of their subject
sequence (`scanInteger`), as in the C library.
-/

namespace CefHostBridge

/-! ## `std::getline` -/

/-- The lines that `std::getline(stream, line, delim)` returns, called until it fails: the pieces
between delimiters, the last one only when it is not empty. `acc` holds the current piece
reversed. -/
def getlines.go (delim : UInt8) : Bytes → Bytes → List Bytes
  | [], [] => []
  | [], acc => [acc.reverse]
  | c :: s, acc => if c = delim then acc.reverse :: getlines.go delim s [] else
      getlines.go delim s (c :: acc)

/-- Repeated `std::getline(stream, line, delim)` over the whole of `s`. -/
def getlines (delim : UInt8) (s : Bytes) : List Bytes := getlines.go delim s []

@[simp] theorem getlines_nil (delim : UInt8) : getlines delim [] = [] := rfl

/-- A stretch without the delimiter is pushed onto the current line. -/
theorem getlines_go_append {delim : UInt8} :
    ∀ (p : Bytes), delim ∉ p → ∀ (s acc : Bytes),
      getlines.go delim (p ++ s) acc = getlines.go delim s (p.reverse ++ acc)
  | [], _, s, acc => rfl
  | c :: p, h, s, acc => by
    have hc : c ≠ delim := fun e => h (e ▸ List.mem_cons_self _ _)
    rw [List.cons_append, getlines.go, if_neg hc,
      getlines_go_append p (fun m => h (List.mem_cons_of_mem _ m))]
    simp

/-- A line without the delimiter, then the delimiter, is the first line. -/
theorem getlines_append_delim {delim : UInt8} {p : Bytes} (hp : delim ∉ p) (s : Bytes) :
    getlines delim (p ++ delim :: s) = p :: getlines delim s := by
  rw [getlines, getlines_go_append p hp, getlines.go, if_pos rfl]
  simp [getlines]

/-- A non-empty string without the delimiter is one line. -/
theorem getlines_of_not_mem {delim : UInt8} {p : Bytes} (hp : delim ∉ p) (hne : p ≠ []) :
    getlines delim p = [p] := by
  have h := getlines_go_append p hp [] []
  rw [List.append_nil] at h
  rw [getlines, h]
  cases hr : p.reverse with
  | nil => exact absurd (List.reverse_eq_nil_iff.mp hr) hne
  | cons c r => simp [getlines.go, ← hr]

/-! ## `>>` into a `std::string` -/

/-- The words that `stream >> word` extracts, called until it fails: the maximal runs of bytes
that are not `std::isspace`. `acc` holds the current word reversed. -/
def words.go : Bytes → Bytes → List Bytes
  | [], [] => []
  | [], acc => [acc.reverse]
  | c :: s, acc => if isSpace c then
      (if acc = [] then words.go s [] else acc.reverse :: words.go s []) else words.go s (c :: acc)

/-- Repeated `>>` over the whole of `s`. -/
def words (s : Bytes) : List Bytes := words.go s []

/-- A stretch without spaces is pushed onto the current word. -/
theorem words_go_append :
    ∀ (p : Bytes), (∀ c ∈ p, isSpace c = false) → ∀ (s acc : Bytes),
      words.go (p ++ s) acc = words.go s (p.reverse ++ acc)
  | [], _, s, acc => rfl
  | c :: p, h, s, acc => by
    rw [List.cons_append, words.go, if_neg (by simp [h c (List.mem_cons_self _ _)]),
      words_go_append p (fun d hd => h d (List.mem_cons_of_mem _ hd))]
    simp

/-- A non-empty word, then a space, is the first word. -/
theorem words_append_space {p : Bytes} (hp : ∀ c ∈ p, isSpace c = false) (hne : p ≠ [])
    {c : UInt8} (hc : isSpace c = true) (s : Bytes) :
    words (p ++ c :: s) = p :: words s := by
  rw [words, words_go_append p hp, words.go, if_pos hc,
    if_neg (by simpa using hne)]
  simp [words]

/-- A non-empty string without spaces is one word. -/
theorem words_of_no_space {p : Bytes} (hp : ∀ c ∈ p, isSpace c = false) (hne : p ≠ []) :
    words p = [p] := by
  have h := words_go_append p hp [] []
  rw [List.append_nil] at h
  rw [words, h]
  cases hr : p.reverse with
  | nil => exact absurd (List.reverse_eq_nil_iff.mp hr) hne
  | cons c r => simp [words.go, ← hr]

/-! ## `strtol` and `strtoull` -/

/-- The value of a digit byte in the bases up to 36: `0`-`9`, then `a`-`z` or `A`-`Z`; `36` for
any other byte, which is a digit in no base. -/
def digitValue (c : UInt8) : Nat :=
  if 48 ≤ c.toNat ∧ c.toNat ≤ 57 then c.toNat - 48
  else if 97 ≤ c.toNat ∧ c.toNat ≤ 122 then c.toNat - 87
  else if 65 ≤ c.toNat ∧ c.toNat ≤ 90 then c.toNat - 55
  else 36

/-- Whether `c` is a digit in base `base`. -/
def isDigitIn (base : Nat) (c : UInt8) : Bool := digitValue c < base

/-- The number that a run of digits denotes in base `base`. -/
def digitsValue (base : Nat) (ds : Bytes) : Nat :=
  ds.foldl (fun n c => n * base + digitValue c) 0

/-- The length of the `0x` or `0X` prefix that base 16 skips: two when a hexadecimal digit
follows it, and none otherwise, where the subject sequence is the `0` alone. -/
def hexPrefix : Bytes → Nat
  | 48 :: x :: d :: _ => if (x = 120 ∨ x = 88) ∧ isDigitIn 16 d then 2 else 0
  | _ => 0

/-- The optional sign of a subject sequence: whether it is `-`, and its length. -/
def signOf : Bytes → Bool × Nat
  | 45 :: _ => (true, 1)
  | 43 :: _ => (false, 1)
  | _ => (false, 0)

/-- A sequence that starts with neither sign has none. -/
theorem signOf_of_ne {c : UInt8} (h45 : c ≠ 45) (h43 : c ≠ 43) (r : Bytes) :
    signOf (c :: r) = (false, 0) := by
  unfold signOf
  split <;> simp_all

/-- The subject sequence that `strtol`, `strtoul` and `strtoull` read in base `base` (10 or 16):
leading `std::isspace` bytes, an optional sign, in base 16 an optional `0x`, and one or more
digits. It gives whether the sign is `-`, the magnitude of the digits, and the offset just past
them, where `*endptr` points; `none` when there are no digits, and then `*endptr` is the start. -/
def scanInteger (base : Nat) (s : Bytes) : Option (Bool × Nat × Nat) :=
  let ws := (s.takeWhile isSpace).length
  let r := s.drop ws
  let sign := signOf r
  let r := r.drop sign.2
  let pre := if base = 16 then hexPrefix r else 0
  let ds := (r.drop pre).takeWhile (isDigitIn base)
  if ds = [] then none else some (sign.1, digitsValue base ds, ws + sign.2 + pre + ds.length)

/-- `strtol(s, &end, base)` with a 64-bit `long`: the value, clamped to `LONG_MIN` or `LONG_MAX`
when it is out of range, and the offset of `end`. -/
def strtol (s : Bytes) (base : Nat) : Int × Nat :=
  match scanInteger base s with
  | none => (0, 0)
  | some (neg, m, e) => (if neg then max (-(m : Int)) (-2^63) else min (m : Int) (2^63 - 1), e)

/-- A scan without `-` whose magnitude fits a `long` is `strtol`'s value. -/
theorem strtol_of_scan {s : Bytes} {base m e : Nat} (h : scanInteger base s = some (false, m, e))
    (hm : m < 2^63) : strtol s base = ((m : Int), e) := by
  simp only [strtol, h, Bool.false_eq_true, if_false, Prod.mk.injEq, and_true]
  omega

/-- `strtoull(s, &end, base)`: the magnitude negated modulo `2^64` after a `-`, `ULLONG_MAX`
when the magnitude is out of range, and the offset of `end`. -/
def strtoull (s : Bytes) (base : Nat) : Nat × Nat :=
  match scanInteger base s with
  | none => (0, 0)
  | some (neg, m, e) => (if 2^64 ≤ m then 2^64 - 1 else if neg then (2^64 - m) % 2^64 else m, e)

/-- The C string that `c_str()` passes to a C function: the bytes before the first NUL. -/
def cStr (s : Bytes) : Bytes := s.takeWhile (· != 0)

/-- `*end == '\0'` for an offset `e` into the buffer of `s`, whose terminating NUL follows the
bytes of `s`. -/
def atNul (s : Bytes) (e : Nat) : Bool := (s ++ [0])[e]? == some 0

/-! ## Whole decimal numerals -/

/-- A decimal digit is one of `0`-`9`. -/
theorem decimalDigit_range {c : UInt8} (h : isDigitIn 10 c = true) : 48 ≤ c.toNat ∧ c.toNat ≤ 57 := by
  simp only [isDigitIn, digitValue, decide_eq_true_eq] at h
  split_ifs at h <;> omega

/-- A decimal digit is neither white space nor a sign. -/
theorem decimalDigit_facts {c : UInt8} (h : isDigitIn 10 c = true) :
    isSpace c = false ∧ c ≠ 43 ∧ c ≠ 45 := by
  have hr := decimalDigit_range h
  simp only [isSpace, Ne, byte_eq_iff]
  simp
  omega

/-- The parts of a decimal subject sequence: white space `ws`, an optional sign `sg`, and one or
more decimal digits `ds`. -/
structure DecimalParts (ws sg ds : Bytes) : Prop where
  space : ∀ c ∈ ws, isSpace c = true
  sign : sg = [] ∨ sg = [43] ∨ sg = [45]
  ne_nil : ds ≠ []
  digits : ∀ c ∈ ds, isDigitIn 10 c = true

/-- The number that a sign and decimal digits denote. -/
def signedValue (sg ds : Bytes) : Int :=
  if sg = [45] then -(digitsValue 10 ds : Int) else (digitsValue 10 ds : Int)

/-- `s` is, in its entirety, optional leading white space, an optional sign and one or more
decimal digits, which denote `n`. -/
def IsDecimal (s : Bytes) (n : Int) : Prop :=
  ∃ ws sg ds, s = ws ++ sg ++ ds ∧ DecimalParts ws sg ds ∧ n = signedValue sg ds

/-- `signOf` takes `-`, `+` or nothing from the front, and reports `-`. -/
theorem signOf_spec (r : Bytes) : (signOf r).2 ≤ r.length ∧
    (r.take (signOf r).2 = [] ∨ r.take (signOf r).2 = [43] ∨ r.take (signOf r).2 = [45]) ∧
    (signOf r).1 = decide (r.take (signOf r).2 = [45]) := by
  unfold signOf
  split <;> simp_all

/-- The scan in base 10 of white space, a sign and digits, followed by a byte that is no digit or
by nothing, reads exactly those parts. -/
theorem scanInteger_of_parts {ws sg ds : Bytes} (hp : DecimalParts ws sg ds) (rest : Bytes)
    (hr : ∀ c ∈ rest.head?, isDigitIn 10 c = false) :
    scanInteger 10 (ws ++ sg ++ ds ++ rest) =
      some (decide (sg = [45]), digitsValue 10 ds, ws.length + sg.length + ds.length) := by
  obtain ⟨d, ds', rfl⟩ := List.exists_cons_of_ne_nil hp.ne_nil
  obtain ⟨hds, h43, h45⟩ := decimalDigit_facts (hp.digits d (List.mem_cons_self _ _))
  have hdig : (d :: (ds' ++ rest)).takeWhile (isDigitIn 10) = d :: ds' := by
    rw [← List.cons_append, List.takeWhile_append_of_pos hp.digits, List.append_right_eq_self]
    cases rest with
    | nil => rfl
    | cons c _ => exact List.takeWhile_cons_of_neg (by simp [hr c rfl])
  have hws : ∀ c t, isSpace c = false → (ws ++ c :: t).takeWhile isSpace = ws := fun c t hc => by
    rw [List.takeWhile_append_of_pos hp.space, List.takeWhile_cons_of_neg (by simp [hc]),
      List.append_nil]
  rcases hp.sign with rfl | rfl | rfl
  · simp only [scanInteger, List.nil_append, List.append_assoc, List.cons_append, hws d _ hds,
      List.drop_left, signOf_of_ne h45 h43, List.drop_zero]
    simp [hdig]
  · simp only [scanInteger, List.append_assoc, List.cons_append, List.nil_append,
      hws 43 _ rfl, List.drop_left, signOf]
    simp [hdig]
  · simp only [scanInteger, List.append_assoc, List.cons_append, List.nil_append,
      hws 45 _ rfl, List.drop_left, signOf]
    simp [hdig]

/-- A string is its longest prefix of bytes satisfying `p`, then the rest. -/
theorem takeWhile_append_drop (p : UInt8 → Bool) (l : Bytes) :
    l.takeWhile p ++ l.drop (l.takeWhile p).length = l := by
  conv_rhs => rw [← List.take_append_drop (l.takeWhile p).length l,
    ← List.prefix_iff_eq_take.mp (List.takeWhile_prefix p)]

/-- Every successful scan in base 10 read white space, a sign and digits from the front. -/
theorem scanInteger_parts {s : Bytes} {neg : Bool} {m e : Nat}
    (h : scanInteger 10 s = some (neg, m, e)) :
    ∃ ws sg ds rest, s = ws ++ sg ++ ds ++ rest ∧ DecimalParts ws sg ds ∧
      neg = decide (sg = [45]) ∧ m = digitsValue 10 ds ∧ e = ws.length + sg.length + ds.length := by
  simp only [scanInteger, if_neg (show (10 : Nat) ≠ 16 by decide), List.drop_zero] at h
  split_ifs at h with hds
  simp only [Option.some.injEq, Prod.mk.injEq] at h
  obtain ⟨rfl, rfl, rfl⟩ := h
  set r := s.drop (s.takeWhile isSpace).length
  obtain ⟨hk, hsg, hneg⟩ := signOf_spec r
  set ds := (r.drop (signOf r).2).takeWhile (isDigitIn 10)
  refine ⟨s.takeWhile isSpace, r.take (signOf r).2, ds, (r.drop (signOf r).2).drop ds.length, ?_,
    ⟨fun c hc => List.mem_takeWhile_imp hc, hsg, hds, fun c hc => List.mem_takeWhile_imp hc⟩,
    hneg, rfl, ?_⟩
  · rw [List.append_assoc, List.append_assoc, takeWhile_append_drop, List.take_append_drop,
      takeWhile_append_drop]
  · simp only [List.length_take]
    omega

/-- **A whole decimal numeral.** `s` is one exactly when the scan of `strtol` in base 10 reads
all of it; the value is the scan's magnitude, negated after `-`. -/
theorem isDecimal_iff_scanInteger {s : Bytes} {n : Int} :
    IsDecimal s n ↔
      ∃ neg m, scanInteger 10 s = some (neg, m, s.length) ∧ n = if neg then -(m : Int) else m := by
  constructor
  · rintro ⟨ws, sg, ds, rfl, hp, rfl⟩
    refine ⟨decide (sg = [45]), digitsValue 10 ds, ?_, by simp [signedValue]⟩
    simpa [Nat.add_assoc] using scanInteger_of_parts hp [] (by simp)
  · rintro ⟨neg, m, h, rfl⟩
    obtain ⟨ws, sg, ds, rest, rfl, hp, rfl, rfl, he⟩ := scanInteger_parts h
    obtain rfl : rest = [] := List.length_eq_zero.mp (by simp at he; omega)
    exact ⟨ws, sg, ds, by simp, hp, by simp [signedValue]⟩

/-- A decimal numeral is not empty. -/
theorem isDecimal_ne_nil {s : Bytes} {n : Int} (h : IsDecimal s n) : s ≠ [] := by
  obtain ⟨ws, sg, ds, rfl, hp, -⟩ := h
  simp [hp.ne_nil]

/-- The bytes of a decimal numeral are white space, signs and digits. -/
theorem isDecimal_mem {s : Bytes} {n : Int} (h : IsDecimal s n) {c : UInt8} (hc : c ∈ s) :
    isSpace c = true ∨ c = 43 ∨ c = 45 ∨ isDigitIn 10 c = true := by
  obtain ⟨ws, sg, ds, rfl, hp, -⟩ := h
  simp only [List.mem_append] at hc
  rcases hc with (hc | hc) | hc
  · exact .inl (hp.space c hc)
  · rcases hp.sign with rfl | rfl | rfl <;> simp_all
  · exact .inr (.inr (.inr (hp.digits c hc)))

/-- A decimal numeral holds no NUL. -/
theorem isDecimal_nul {s : Bytes} {n : Int} (h : IsDecimal s n) : (0 : UInt8) ∉ s := fun h0 => by
  rcases isDecimal_mem h h0 with h | h | h | h
  · cases h
  · cases h
  · cases h
  · exact absurd (decimalDigit_range h).1 (by decide)

/-- On a whole decimal numeral `strtol` reads to the end, and gives the value clamped to the
range of `long`. -/
theorem strtol_of_isDecimal {s : Bytes} {n : Int} (h : IsDecimal s n) :
    strtol s 10 = (max (-2^63) (min n (2^63 - 1)), s.length) := by
  obtain ⟨neg, m, hs, rfl⟩ := isDecimal_iff_scanInteger.mp h
  simp only [strtol, hs, Prod.mk.injEq, and_true]
  cases neg <;> simp only [if_true, if_false, Bool.false_eq_true] <;> omega

/-- `c_str()` of a string without NUL is the whole string. -/
theorem cStr_of_nul {s : Bytes} (h0 : (0 : UInt8) ∉ s) : cStr s = s :=
  List.takeWhile_eq_self_iff.mpr fun c hc => by
    simpa using fun e : c = 0 => h0 (e ▸ hc)

/-- In a string without NUL, the byte at `e` is the terminating NUL exactly at its end. -/
theorem atNul_of_nul {s : Bytes} (h0 : (0 : UInt8) ∉ s) {e : Nat} (he : e ≤ s.length) :
    atNul s e = decide (e = s.length) := by
  rcases Nat.lt_or_eq_of_le he with he | rfl
  · have hget : (s ++ [0])[e]? = some s[e] := by
      rw [List.getElem?_append_left he, List.getElem?_eq_getElem he]
    have hne : s[e] ≠ 0 := fun e0 => h0 (e0 ▸ List.getElem_mem he)
    simp [atNul, hget, hne, Nat.ne_of_lt he]
  · simp [atNul]

/-- **`*end == '\0'` after `strtol` on a string without NUL.** The end is at the terminating NUL
only when the scan read a whole decimal numeral, or the string is empty. -/
theorem isDecimal_of_atNul {s : Bytes} (h0 : (0 : UInt8) ∉ s) (hne : s ≠ [])
    (h : atNul s (strtol s 10).2 = true) : ∃ n, IsDecimal s n := by
  cases hs : scanInteger 10 s with
  | none =>
    rw [strtol, hs, atNul_of_nul h0 (Nat.zero_le _)] at h
    exact absurd (of_decide_eq_true h).symm (mt List.length_eq_zero.mp hne)
  | some x =>
    obtain ⟨neg, m, e⟩ := x
    have he : e ≤ s.length := by
      obtain ⟨ws, sg, ds, rest, rfl, -, -, -, rfl⟩ := scanInteger_parts hs
      simp only [List.length_append]
      omega
    rw [strtol, hs, atNul_of_nul h0 he] at h
    exact ⟨_, isDecimal_iff_scanInteger.mpr ⟨neg, m, of_decide_eq_true h ▸ hs, rfl⟩⟩

end CefHostBridge
