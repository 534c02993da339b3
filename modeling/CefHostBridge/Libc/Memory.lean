import CefHostBridge.Cpp.Bytes

/-!
# `memmove` and `memcmp` of `src/libc/libc.c`

The memory is a byte array indexed by address, with the pointers as addresses into it. `memmove`
returns at once when `d == s` or `n == 0`, copies upwards (`*d++ = *s++`) when `d < s`, and
downwards from the ends (`*--d = *--s`) otherwise. Each loop gets one lookup equation for what it
leaves at every address (`copyForward_getElem?`, `copyBackward_getElem?`), proved by induction on
the count: the write of a step never lands on a byte that a later step reads, because the loop
runs away from the source. `memmove_spec` assembles them for all three cases.

`memcmp` stops at the first pair of unequal bytes and returns their difference as `int`s of
`unsigned char`s. `memcmp_spec` says that it is zero exactly on equal prefixes, that it is the
difference at the first unequal pair otherwise, and that its sign is the lexicographic order.
-/

namespace CefHostBridge

/-- The byte memory, indexed by address. -/
abbrev Mem := List UInt8

/-! ## `memmove` -/

/-- `while (n--) *d++ = *s++;` -/
def copyForward (m : Mem) (d s : Nat) : Nat → Mem
  | 0 => m
  | n + 1 => copyForward (m.set d (m.getD s 0)) (d + 1) (s + 1) n

/-- `d += n; s += n; while (n--) *--d = *--s;` -/
def copyBackward (m : Mem) (d s : Nat) : Nat → Mem
  | 0 => m
  | n + 1 => copyBackward (m.set (d + n) (m.getD (s + n) 0)) d s n

/-- `memmove(d, s, n)` on the memory `m`. -/
def memmove (m : Mem) (d s n : Nat) : Mem :=
  if d = s ∨ n = 0 then m
  else if d < s then copyForward m d s n
  else copyBackward m d s n

/-- The upward loop keeps the memory's size. -/
@[simp] theorem length_copyForward : ∀ (n : Nat) (m : Mem) (d s : Nat),
    (copyForward m d s n).length = m.length
  | 0, _, _, _ => rfl
  | n + 1, m, d, s => by rw [copyForward, length_copyForward, List.length_set]

/-- The downward loop keeps the memory's size. -/
@[simp] theorem length_copyBackward : ∀ (n : Nat) (m : Mem) (d s : Nat),
    (copyBackward m d s n).length = m.length
  | 0, _, _, _ => rfl
  | n + 1, m, d, s => by rw [copyBackward, length_copyBackward, List.length_set]

/-- `memmove` keeps the memory's size. -/
@[simp] theorem length_memmove (m : Mem) (d s n : Nat) : (memmove m d s n).length = m.length := by
  unfold memmove
  split_ifs <;> simp

/-- A write at an address in range puts the byte there and nowhere else. -/
theorem getElem?_set_getD {m : Mem} {d s : Nat} (hd : d < m.length) (hs : s < m.length) (a : Nat) :
    (m.set d (m.getD s 0))[a]? = if a = d then m[s]? else m[a]? := by
  rw [List.getElem?_set]
  by_cases ha : a = d
  · subst ha
    rw [if_pos rfl, if_pos hd, if_pos rfl, List.getD_eq_getElem?_getD, List.getElem?_eq_getElem hs]
    rfl
  · rw [if_neg (Ne.symm ha), if_neg ha]

/-- **The upward loop.** With `d ≤ s`, it leaves `m[a - d + s]` at every `a` in `[d, d + n)`
and `m[a]` elsewhere: the byte it reads at `s + i` was not written, since it writes only below
`d + i ≤ s + i`. -/
theorem copyForward_getElem? : ∀ (n : Nat) (m : Mem) (d s : Nat), d ≤ s → d + n ≤ m.length →
    s + n ≤ m.length → ∀ a, (copyForward m d s n)[a]? =
      if d ≤ a ∧ a < d + n then m[a - d + s]? else m[a]?
  | 0, m, d, s, _, _, _, a => by rw [copyForward, if_neg (by omega)]
  | n + 1, m, d, s, hds, hd, hs, a => by
    rw [copyForward, copyForward_getElem? n _ (d + 1) (s + 1) (by omega) (by simp; omega)
      (by simp; omega)]
    have hset := getElem?_set_getD (m := m) (d := d) (s := s) (by omega) (by omega)
    by_cases hin : d + 1 ≤ a ∧ a < d + 1 + n
    · rw [if_pos hin, if_pos ⟨by omega, by omega⟩, hset, if_neg (by omega)]
      congr 1
      omega
    · rw [if_neg hin, hset]
      by_cases ha : a = d
      · rw [if_pos ha, if_pos ⟨by omega, by omega⟩, ha, Nat.sub_self, Nat.zero_add]
      · rw [if_neg ha, if_neg (by omega)]

/-- **The downward loop.** With `s ≤ d`, it leaves `m[a - d + s]` at every `a` in `[d, d + n)`
and `m[a]` elsewhere: it reads `s + i` before writing anything at or below `d + i`, and it has
written only above `d + i ≥ s + i`. -/
theorem copyBackward_getElem? : ∀ (n : Nat) (m : Mem) (d s : Nat), s ≤ d → d + n ≤ m.length →
    s + n ≤ m.length → ∀ a, (copyBackward m d s n)[a]? =
      if d ≤ a ∧ a < d + n then m[a - d + s]? else m[a]?
  | 0, m, d, s, _, _, _, a => by rw [copyBackward, if_neg (by omega)]
  | n + 1, m, d, s, hsd, hd, hs, a => by
    rw [copyBackward, copyBackward_getElem? n _ d s hsd (by simp; omega) (by simp; omega)]
    have hset := getElem?_set_getD (m := m) (d := d + n) (s := s + n) (by omega) (by omega)
    by_cases hin : d ≤ a ∧ a < d + n
    · rw [if_pos hin, if_pos ⟨hin.1, by omega⟩, hset, if_neg (by omega)]
    · rw [if_neg hin, hset]
      by_cases ha : a = d + n
      · rw [if_pos ha, if_pos ⟨by omega, by omega⟩, ha]
        congr 1
        omega
      · rw [if_neg ha, if_neg (by omega)]

/-- Every address after `memmove`: the byte of the source inside the destination, the old byte
outside it. The three branches (nothing to move, forward, backward) agree on it. -/
theorem memmove_getElem? (m : Mem) (d s n : Nat) (hd : d + n ≤ m.length) (hs : s + n ≤ m.length)
    (a : Nat) : (memmove m d s n)[a]? = if d ≤ a ∧ a < d + n then m[a - d + s]? else m[a]? := by
  unfold memmove
  by_cases h0 : d = s ∨ n = 0
  · rw [if_pos h0]
    rcases h0 with rfl | rfl
    · -- in place: inside the range the address is its own source
      split_ifs
      · congr 1
        omega
      · rfl
    · rw [if_neg (by omega)]
  · rw [if_neg h0]
    by_cases hlt : d < s
    · rw [if_pos hlt]
      exact copyForward_getElem? n m d s hlt.le hd hs a
    · rw [if_neg hlt]
      exact copyBackward_getElem? n m d s (by omega) hd hs a

/-- **`memmove`.** For ranges `[d, d + n)` and `[s, s + n)` inside the memory, whether they are
disjoint or overlap either way, `memmove` keeps the memory's size, puts `m[s + i]` at `d + i`
for every `i < n`, and leaves every address outside `[d, d + n)` as it was. -/
theorem memmove_spec (m : Mem) (d s n : Nat) (hd : d + n ≤ m.length) (hs : s + n ≤ m.length) :
    (memmove m d s n).length = m.length ∧
      (∀ i < n, (memmove m d s n)[d + i]? = m[s + i]?) ∧
      (∀ a, a < d ∨ d + n ≤ a → (memmove m d s n)[a]? = m[a]?) := by
  refine ⟨length_memmove m d s n, fun i hi => ?_, fun a ha => ?_⟩
  · rw [memmove_getElem? m d s n hd hs, if_pos ⟨by omega, by omega⟩]
    congr 1
    omega
  · rw [memmove_getElem? m d s n hd hs, if_neg (by omega)]

/-- `memmove` of three bytes one place up, over its own source. -/
theorem memmove_overlap_up :
    (memmove ([1, 2, 3, 4, 5] : Mem) 1 0 3).length = 5 ∧
      (∀ i < 3, (memmove ([1, 2, 3, 4, 5] : Mem) 1 0 3)[1 + i]? = ([1, 2, 3, 4, 5] : Mem)[0 + i]?) ∧
      (∀ a, a < 1 ∨ 1 + 3 ≤ a →
        (memmove ([1, 2, 3, 4, 5] : Mem) 1 0 3)[a]? = ([1, 2, 3, 4, 5] : Mem)[a]?) :=
  memmove_spec [1, 2, 3, 4, 5] 1 0 3 (by decide) (by decide)

example : memmove ([1, 2, 3, 4, 5] : Mem) 1 0 3 = [1, 1, 2, 3, 5] := by decide

/-! ## `memcmp` -/

/-- `memcmp(a, b, n)` on the bytes from `a` and from `b`: the first difference of two
`unsigned char`s as `int`s, or `0`. A read past either array is outside its contract. -/
def memcmp : Bytes → Bytes → Nat → Int
  | x :: a, y :: b, n + 1 => if x ≠ y then (x.toNat : Int) - y.toNat else memcmp a b n
  | _, _, _ => 0

/-- Byte order is the order of the values. -/
theorem byte_lt_iff {x y : UInt8} : x < y ↔ x.toNat < y.toNat := Iff.rfl

/-- The lexicographic order on byte strings at a first pair of bytes. -/
theorem cons_lt_cons_iff {x y : UInt8} {a b : Bytes} :
    x :: a < y :: b ↔ x < y ∨ x = y ∧ a < b := by
  constructor
  · intro h
    cases h with
    | cons hab => exact .inr ⟨rfl, hab⟩
    | rel hxy => exact .inl hxy
  · rintro (hxy | ⟨rfl, hab⟩)
    · exact List.Lex.rel hxy
    · exact List.Lex.cons hab

/-- Equal prefixes compare equal. -/
theorem memcmp_of_take_eq : ∀ (a b : Bytes) (n : Nat), n ≤ a.length → n ≤ b.length →
    a.take n = b.take n → memcmp a b n = 0
  | _, _, 0, _, _, _ => by simp [memcmp]
  | [], _, _ + 1, ha, _, _ => absurd ha (by simp)
  | _ :: _, [], _ + 1, _, hb, _ => absurd hb (by simp)
  | x :: a, y :: b, n + 1, ha, hb, h => by
    rw [List.take_succ_cons, List.take_succ_cons] at h
    obtain ⟨rfl, ht⟩ := List.cons_eq_cons.mp h
    rw [memcmp, if_neg (not_not.mpr rfl)]
    exact memcmp_of_take_eq a b n (by simpa using ha) (by simpa using hb) ht

/-- Unequal prefixes compare as the bytes of their first difference. -/
theorem memcmp_first_diff : ∀ (a b : Bytes) (n : Nat), n ≤ a.length → n ≤ b.length →
    a.take n ≠ b.take n → ∃ k < n, a.take k = b.take k ∧ ∃ x y, a[k]? = some x ∧
      b[k]? = some y ∧ x ≠ y ∧ memcmp a b n = (x.toNat : Int) - y.toNat
  | _, _, 0, _, _, h => absurd rfl h
  | [], _, _ + 1, ha, _, _ => absurd ha (by simp)
  | _ :: _, [], _ + 1, _, hb, _ => absurd hb (by simp)
  | x :: a, y :: b, n + 1, ha, hb, h => by
    by_cases hxy : x = y
    · subst hxy
      have ht : a.take n ≠ b.take n := fun e => h (by simp [e])
      obtain ⟨k, hk, hpre, u, v, hu, hv, huv, hm⟩ :=
        memcmp_first_diff a b n (by simpa using ha) (by simpa using hb) ht
      refine ⟨k + 1, by omega, by simp [hpre], u, v, by simpa using hu, by simpa using hv, huv, ?_⟩
      rw [memcmp, if_neg (not_not.mpr rfl), hm]
    · exact ⟨0, by omega, rfl, x, y, by simp, by simp, hxy, if_pos hxy⟩

/-- The sign of `memcmp` is the lexicographic order of the prefixes. -/
theorem memcmp_neg_iff : ∀ (a b : Bytes) (n : Nat), n ≤ a.length → n ≤ b.length →
    (memcmp a b n < 0 ↔ a.take n < b.take n)
  | _, _, 0, _, _ => by simp [memcmp]; nofun
  | [], _, _ + 1, ha, _ => absurd ha (by simp)
  | _ :: _, [], _ + 1, _, hb => absurd hb (by simp)
  | x :: a, y :: b, n + 1, ha, hb => by
    rw [List.take_succ_cons, List.take_succ_cons, cons_lt_cons_iff, memcmp]
    by_cases hxy : x = y
    · subst hxy
      rw [if_neg (not_not.mpr rfl), memcmp_neg_iff a b n (by simpa using ha) (by simpa using hb)]
      simp [byte_lt_iff]
    · rw [if_pos hxy, byte_lt_iff]
      have := byte_eq_iff.not.mp hxy
      constructor
      · intro h; exact .inl (by omega)
      · rintro (h | ⟨h, -⟩)
        · omega
        · exact absurd h hxy

/-- **`memcmp`.** For `n` within both arrays, `memcmp(a, b, n)` is `0` exactly when the `n`-byte
prefixes are equal; otherwise it is `a[k] - b[k]`, as unsigned bytes, at the first index `k < n`
where they differ; and it is negative exactly when `a`'s prefix comes first in lexicographic
order. -/
theorem memcmp_spec (a b : Bytes) (n : Nat) (ha : n ≤ a.length) (hb : n ≤ b.length) :
    (memcmp a b n = 0 ↔ a.take n = b.take n) ∧
      (a.take n ≠ b.take n → ∃ k < n, a.take k = b.take k ∧ ∃ x y, a[k]? = some x ∧
        b[k]? = some y ∧ x ≠ y ∧ memcmp a b n = (x.toNat : Int) - y.toNat) ∧
      (memcmp a b n < 0 ↔ a.take n < b.take n) := by
  refine ⟨⟨fun h0 => ?_, memcmp_of_take_eq a b n ha hb⟩, memcmp_first_diff a b n ha hb,
    memcmp_neg_iff a b n ha hb⟩
  by_contra hne
  obtain ⟨k, -, -, x, y, -, -, hxy, hm⟩ := memcmp_first_diff a b n ha hb hne
  have := byte_eq_iff.not.mp hxy
  omega

/-- `0x80` against `0x01` compares as `128 - 1`, and `[0x80]` is not below `[0x01]`: the bytes
are unsigned. -/
theorem memcmp_high_byte :
    memcmp ([128] : Bytes) [1] 1 = 127 ∧ ¬([128] : Bytes).take 1 < ([1] : Bytes).take 1 :=
  ⟨rfl, fun h => absurd ((memcmp_spec [128] [1] 1 (by decide) (by decide)).2.2.mpr h) (by decide)⟩

end CefHostBridge
