import Mathlib

/-!
# Byte strings and the C library that the bridge calls

A `std::string` of `src/tools/cef_host_bridge/src/main.cpp` holds bytes, so a string of the model
is a `List UInt8`. This file gives the pieces of the C and C++ libraries that the bridge's parsing
uses on them: the `<cctype>` classes of the C locale (`std::isspace`, `std::tolower`) and
`ToLowerAscii` over them, `std::string::find`, and `std::map<std::string, std::string>` as a list of
entries with distinct keys. Each comes with the lemmas that later files rewrite with, so that no
caller unfolds them.
-/

namespace CefHostBridge

/-- A `std::string`: a sequence of bytes. -/
abbrev Bytes := List UInt8

/-- The bytes of an ASCII string literal of the source. -/
def lit (s : String) : Bytes := s.toList.map Char.toUInt8

/-- Two bytes are equal when their values are. -/
theorem byte_eq_iff {a b : UInt8} : a = b ↔ a.toNat = b.toNat :=
  ⟨congrArg UInt8.toNat, UInt8.toNat.inj⟩

/-- `UInt8.size`, to which `simp` takes the value of a byte literal, as a number. -/
@[simp] theorem uint8_size : UInt8.size = 256 := rfl

/-! ## `<cctype>` in the C locale -/

/-- `std::isspace` in the C locale: space, `\t`, `\n`, `\v`, `\f` and `\r`. -/
def isSpace (c : UInt8) : Bool := c.toNat == 32 || (9 ≤ c.toNat && c.toNat ≤ 13)

/-- `std::tolower` in the C locale: `A` to `Z` become `a` to `z`, other bytes are unchanged. -/
def toLower (c : UInt8) : UInt8 :=
  if 65 ≤ c.toNat ∧ c.toNat ≤ 90 then UInt8.ofNat (c.toNat + 32) else c

/-- `ToLowerAscii`: `std::tolower` on every byte. -/
def toLowerAscii (text : Bytes) : Bytes := text.map toLower

@[simp] theorem toLowerAscii_nil : toLowerAscii [] = [] := rfl

@[simp] theorem toLowerAscii_cons (c : UInt8) (s : Bytes) :
    toLowerAscii (c :: s) = toLower c :: toLowerAscii s := rfl

@[simp] theorem toLowerAscii_append (s t : Bytes) :
    toLowerAscii (s ++ t) = toLowerAscii s ++ toLowerAscii t := List.map_append _ _ _

@[simp] theorem length_toLowerAscii (s : Bytes) : (toLowerAscii s).length = s.length :=
  List.length_map _ _

/-! ## `std::string::find` -/

/-- `s.find(pat)`: the position of the first occurrence of `pat` in `s`, if there is one. -/
def find (pat : Bytes) : Bytes → Option Nat
  | [] => if pat = [] then some 0 else none
  | c :: s => if pat.isPrefixOf (c :: s) then some 0 else (find pat s).map (· + 1)

/-- A string that starts with the pattern has it at position `0`. -/
theorem find_of_isPrefix {pat s : Bytes} (h : pat <+: s) : find pat s = some 0 := by
  cases s with
  | nil => simp [find, List.prefix_nil.mp h]
  | cons c s => simp [find, List.isPrefixOf_iff_prefix.mpr h]

/-- A byte at which the pattern does not start moves the first occurrence by one. -/
theorem find_cons_of_not_isPrefix {pat : Bytes} {c : UInt8} {s : Bytes} (h : ¬pat <+: c :: s) :
    find pat (c :: s) = (find pat s).map (· + 1) := by
  simp [find, List.isPrefixOf_iff_prefix, h]

/-- A stretch `a` at none of whose positions the pattern starts shifts the first occurrence by
its length. -/
theorem find_append_of_not_isPrefix {pat : Bytes} :
    ∀ (a b : Bytes), (∀ i < a.length, ¬pat <+: (a ++ b).drop i) →
      find pat (a ++ b) = (find pat b).map (· + a.length)
  | [], b, _ => by simp
  | c :: a, b, h => by
    have h0 : ¬pat <+: c :: (a ++ b) := h 0 (Nat.zero_lt_succ _)
    rw [List.cons_append, find_cons_of_not_isPrefix h0,
      find_append_of_not_isPrefix a b (fun i hi => h (i + 1) (Nat.succ_lt_succ hi))]
    cases find pat b <;> rfl

/-- A one-byte pattern is found at the length of the prefix that lacks it. -/
theorem find_single_append {c : UInt8} {a : Bytes} (ha : c ∉ a) (b : Bytes) :
    find [c] (a ++ c :: b) = some a.length := by
  rw [find_append_of_not_isPrefix a (c :: b), find_of_isPrefix (by simp)]
  · simp
  · intro i hi hp
    have hd : (a ++ c :: b).drop i = a.drop i ++ c :: b := List.drop_append_of_le_length hi.le
    rw [hd, List.drop_eq_getElem_cons hi] at hp
    simp only [List.cons_append, List.cons_prefix_cons] at hp
    exact ha (hp.1 ▸ List.getElem_mem hi)

/-- A one-byte pattern is not found in a string that lacks it. -/
theorem find_single_of_not_mem {c : UInt8} : ∀ {a : Bytes}, c ∉ a → find [c] a = none
  | [], _ => by simp [find]
  | d :: a, h => by
    have hd : c ≠ d := fun e => h (e ▸ List.mem_cons_self _ _)
    rw [find_cons_of_not_isPrefix (by simpa using hd),
      find_single_of_not_mem (fun m => h (List.mem_cons_of_mem _ m))]
    rfl

/-- `find` gives `h` exactly when the pattern starts at `h` and at no position before it. -/
theorem find_eq_some_iff {pat : Bytes} :
    ∀ {s : Bytes} {h : Nat}, find pat s = some h ↔
      h ≤ s.length ∧ pat <+: s.drop h ∧ ∀ i < h, ¬pat <+: s.drop i
  | [], 0 => by simp [find, List.prefix_nil]
  | [], h + 1 => ⟨fun h => by simp [find] at h, fun ⟨h, _⟩ => absurd h (by simp)⟩
  | c :: s, h => by
    by_cases hp : pat <+: c :: s
    · rw [find_of_isPrefix hp, Option.some.injEq]
      exact ⟨by rintro rfl; exact ⟨Nat.zero_le _, hp, fun _ h => absurd h (Nat.not_lt_zero _)⟩,
        fun ⟨_, _, hmin⟩ => (Nat.eq_zero_of_not_pos fun h0 => hmin 0 h0 hp).symm⟩
    · rw [find_cons_of_not_isPrefix hp]
      cases h with
      | zero =>
        refine ⟨fun h => ?_, fun ⟨_, h, _⟩ => absurd h hp⟩
        obtain ⟨_, -, h⟩ := Option.map_eq_some'.mp h
        exact absurd h (Nat.succ_ne_zero _)
      | succ h =>
        simp only [Option.map_eq_some', find_eq_some_iff, Nat.add_right_cancel_iff, exists_eq_right,
          List.length_cons, Nat.add_le_add_iff_right, List.drop_succ_cons, Nat.forall_lt_succ_left,
          List.drop_zero, hp, not_false_eq_true, true_and]

/-- `find` gives nothing exactly when the pattern starts at no position. -/
theorem find_eq_none_iff {pat : Bytes} :
    ∀ {s : Bytes}, find pat s = none ↔ ∀ i ≤ s.length, ¬pat <+: s.drop i
  | [] => by simp [find, List.prefix_nil]
  | c :: s => by
    by_cases hp : pat <+: c :: s
    · rw [find_of_isPrefix hp]
      exact ⟨nofun, fun h => absurd hp (h 0 (Nat.zero_le _))⟩
    · rw [find_cons_of_not_isPrefix hp, Option.map_eq_none', find_eq_none_iff]
      constructor
      · intro h i hi
        cases i with
        | zero => exact hp
        | succ i => exact h i (Nat.le_of_succ_le_succ hi)
      · intro h i hi
        exact h (i + 1) (Nat.succ_le_succ hi)

/-- `find` finds the pattern exactly when it occurs. -/
theorem find_isSome_iff_isInfix {pat s : Bytes} : (find pat s).isSome ↔ pat <:+: s := by
  constructor
  · intro h
    obtain ⟨i, hi⟩ := Option.isSome_iff_exists.mp h
    obtain ⟨-, ⟨w, hw⟩, -⟩ := find_eq_some_iff.mp hi
    exact ⟨s.take i, w, by rw [List.append_assoc, hw, List.take_append_drop]⟩
  · rintro ⟨u, w, rfl⟩
    cases hf : find pat (u ++ pat ++ w) with
    | some _ => rfl
    | none =>
      exact absurd (by simp) (find_eq_none_iff.mp hf u.length (by simp))

/-- Dropping the same number of bytes from a prefix leaves a prefix. -/
theorem drop_prefix_drop {P S : Bytes} (h : P <+: S) (i : Nat) : P.drop i <+: S.drop i := by
  obtain ⟨t, rfl⟩ := h
  rw [List.drop_append_eq_append_drop]
  exact List.prefix_append _ _

/-- **The first occurrence in a prefix.** A prefix of `S` holds the first occurrence of the
pattern in `S` when it is long enough to hold all of it, and no occurrence otherwise. -/
theorem find_eq_of_isPrefix {pat P S : Bytes} {h : Nat} (hS : find pat S = some h) (hP : P <+: S) :
    find pat P = if h + pat.length ≤ P.length then some h else none := by
  obtain ⟨-, hocc, hmin⟩ := find_eq_some_iff.mp hS
  have hbefore : ∀ i < h, ¬pat <+: P.drop i := fun i hi hpi =>
    hmin i hi (hpi.trans (drop_prefix_drop hP i))
  split_ifs with hlen
  · refine find_eq_some_iff.mpr ⟨by omega, ?_, hbefore⟩
    exact List.prefix_of_prefix_length_le hocc (drop_prefix_drop hP h) (by simp; omega)
  · refine find_eq_none_iff.mpr fun i _ hpi => ?_
    by_cases hi : i < h
    · exact hbefore i hi hpi
    · have := hpi.length_le
      simp only [List.length_drop] at this
      omega

/-! ## `std::map<std::string, std::string>` -/

/-- A `std::map<std::string, std::string>`: its entries, one per key. -/
abbrev Dict := List (Bytes × Bytes)

/-- `m[k] = v`: the entry of `k` becomes `v`, and the others stay. -/
def Dict.assign (m : Dict) (k v : Bytes) : Dict := (k, v) :: m.filter (fun e => e.1 != k)

/-- `m.find(k)`: the value of `k`, if `m` has an entry for it. -/
def Dict.find? (m : Dict) (k : Bytes) : Option Bytes := m.lookup k

@[simp] theorem Dict.find?_nil (k : Bytes) : Dict.find? [] k = none := rfl

/-- `List.lookup` at a cons: the head's value when its key matches. -/
theorem lookup_cons_eq (m : Dict) (a b k : Bytes) :
    ((a, b) :: m).lookup k = if k = a then some b else m.lookup k := by
  by_cases h : k = a
  · subst h; simp [List.lookup_cons]
  · simp [List.lookup_cons, beq_eq_false_iff_ne.mpr h, h]

/-- A lookup in a list with the entries of one key filtered out. -/
theorem lookup_filter_ne (m : Dict) (k k' : Bytes) :
    (m.filter (fun e => e.1 != k)).lookup k' = if k' = k then none else m.lookup k' := by
  induction m with
  | nil => split <;> rfl
  | cons e m ih =>
    obtain ⟨a, b⟩ := e
    by_cases hak : a = k
    · subst hak
      simp only [List.filter_cons, bne_self_eq_false, Bool.false_eq_true, if_false, ih,
        lookup_cons_eq]
      by_cases h : k' = a <;> simp [h]
    · have : (a != k) = true := by simpa using hak
      simp only [List.filter_cons, this, if_true, lookup_cons_eq, ih]
      by_cases h : k' = a
      · subst h; simp [hak]
      · simp [h]

/-- After `m[k] = v`, the value of `k` is `v` and every other key keeps its value. -/
@[simp] theorem Dict.find?_assign (m : Dict) (k v k' : Bytes) :
    (m.assign k v).find? k' = if k' = k then some v else m.find? k' := by
  simp only [Dict.assign, Dict.find?, lookup_cons_eq, lookup_filter_ne]
  by_cases h : k' = k <;> simp [h]

end CefHostBridge
