import CefHostBridge.Libc.Memory

/-!
# `memset`, `memcpy` and `strlen` of `src/libc/libc.c`

The other three functions of the file, on the memory of `Libc/Memory.lean`. `memset` stores the
low byte of its `int` argument over the range (`memset_getElem?`). `memcpy` is the upward loop of
`memmove` without its tests, so it copies right whenever it does not read a byte it has already
written: when the destination starts at or below the source, or the ranges are disjoint. When the
destination starts inside the source above it, the loop reads back what it wrote, and the range
repeats the first `d - s` bytes of the source (`memcpy_getElem?`); C leaves that case undefined.
`strlen` counts the bytes before the first NUL; on a memory with no NUL after the address the loop
reads past its end, and the model says `none` (`strlen_eq_some_iff`).
-/

namespace CefHostBridge

/-! ## `memset` -/

/-- The byte that `(unsigned char)c` keeps of an `int`: its value modulo `256`. -/
def lowByte (c : Int) : UInt8 := UInt8.ofNat (c % 256).toNat

/-- `while (n--) *p++ = (unsigned char)c;` -/
def memset (m : Mem) (d : Nat) (c : Int) : Nat → Mem
  | 0 => m
  | n + 1 => memset (m.set d (lowByte c)) (d + 1) c n

/-- **`memset`.** Over a range inside the memory, `memset` puts the low byte of `c` at every address
of `[d, d + n)` and leaves every other address as it was. -/
theorem memset_getElem? (c : Int) : ∀ (n : Nat) (m : Mem) (d : Nat), d + n ≤ m.length →
    ∀ a, (memset m d c n)[a]? = if d ≤ a ∧ a < d + n then some (lowByte c) else m[a]?
  | 0, m, d, _, a => by rw [memset, if_neg (by omega)]
  | n + 1, m, d, hd, a => by
    rw [memset, memset_getElem? c n _ (d + 1) (by simp; omega), List.getElem?_set]
    by_cases hin : d + 1 ≤ a ∧ a < d + 1 + n
    · rw [if_pos hin, if_pos ⟨by omega, by omega⟩]
    · rw [if_neg hin]
      by_cases ha : a = d
      · rw [if_pos ha.symm, if_pos (by omega), if_pos ⟨by omega, by omega⟩]
      · rw [if_neg (Ne.symm ha), if_neg (by omega)]

/-- `memset(p, 0x141, 2)` over three bytes stores the low byte `0x41` in the first two. -/
theorem memset_low_byte : 0 + 2 ≤ ([1, 2, 3] : Mem).length ∧
    (memset [1, 2, 3] 0 0x141 2)[1]? = some 0x41 ∧ (memset [1, 2, 3] 0 0x141 2)[2]? = some 3 :=
  ⟨by decide, by rw [memset_getElem? 0x141 2 [1, 2, 3] 0 (by decide) 1]; rfl,
    by rw [memset_getElem? 0x141 2 [1, 2, 3] 0 (by decide) 2]; rfl⟩

/-! ## `memcpy` -/

/-- `memcpy(d, s, n)`: `while (n--) *d++ = *s++;`, the upward loop of `memmove`. -/
def memcpy (m : Mem) (d s n : Nat) : Mem := copyForward m d s n

/-- The offset in the source that the upward loop reads for the `i`-th byte when the destination
starts `d - s` above the source: it comes round every `d - s` bytes. -/
theorem mod_step {i p : Nat} (hp : 0 < p) (hi : 1 ≤ i) :
    (i - 1) % p + 1 = p ∧ i % p = 0 ∨ (i - 1) % p + 1 < p ∧ i % p = (i - 1) % p + 1 := by
  have hq := Nat.mod_lt (i - 1) hp
  have hsum : i % p = ((i - 1) % p + 1) % p := by rw [Nat.mod_add_mod, Nat.sub_add_cancel hi]
  by_cases hlt : (i - 1) % p + 1 < p
  · exact .inr ⟨hlt, by rw [hsum, Nat.mod_eq_of_lt hlt]⟩
  · have heq : (i - 1) % p + 1 = p := by omega
    exact .inl ⟨heq, by rw [hsum, heq, Nat.mod_self]⟩

/-- The upward loop with the destination above the source: at `d + i` it leaves the source byte
`s + i % (d - s)`, since from `i = d - s` on it reads what it wrote `d - s` bytes earlier. -/
theorem copyForward_getElem?_of_lt : ∀ (n : Nat) (m : Mem) (d s : Nat), s < d →
    d + n ≤ m.length → ∀ a, (copyForward m d s n)[a]? =
      if d ≤ a ∧ a < d + n then m[s + (a - d) % (d - s)]? else m[a]?
  | 0, m, d, s, _, _, a => by rw [copyForward, if_neg (by omega)]
  | n + 1, m, d, s, hsd, hd, a => by
    rw [copyForward, copyForward_getElem?_of_lt n _ (d + 1) (s + 1) (by omega) (by simp; omega)]
    have hset := getElem?_set_getD (m := m) (d := d) (s := s) (by omega) (by omega)
    by_cases hin : d + 1 ≤ a ∧ a < d + 1 + n
    · rw [if_pos hin, if_pos ⟨by omega, by omega⟩, hset, show d + 1 - (s + 1) = d - s by omega,
        show a - (d + 1) = a - d - 1 by omega]
      rcases mod_step (i := a - d) (p := d - s) (by omega) (by omega) with ⟨h1, h2⟩ | ⟨h1, h2⟩
      · rw [if_pos (by omega), h2, Nat.add_zero]
      · rw [if_neg (by omega), h2, Nat.add_assoc, Nat.add_comm 1]
    · rw [if_neg hin, hset]
      by_cases ha : a = d
      · rw [if_pos ha, if_pos ⟨by omega, by omega⟩, ha, Nat.sub_self, Nat.zero_mod, Nat.add_zero]
      · rw [if_neg ha, if_neg (by omega)]

/-- **`memcpy`.** Over ranges inside the memory, `memcpy` leaves every address outside `[d, d + n)`
as it was, and at `d + i` for `i < n` it puts the source byte `s + i` when the destination starts at
or below the source or the ranges are disjoint, as `memmove` does; when the destination starts
inside the source above it, it puts `s + i % (d - s)`, repeating the first `d - s` source bytes. -/
theorem memcpy_getElem? (m : Mem) (d s n : Nat) (hd : d + n ≤ m.length) (hs : s + n ≤ m.length) :
    (∀ a, a < d ∨ d + n ≤ a → (memcpy m d s n)[a]? = m[a]?) ∧
    (∀ i < n, d ≤ s ∨ s + n ≤ d → (memcpy m d s n)[d + i]? = (memmove m d s n)[d + i]?) ∧
    (∀ i < n, s < d → (memcpy m d s n)[d + i]? = m[s + i % (d - s)]?) := by
  refine ⟨fun a ha => ?_, fun i hi hds => ?_, fun i hi hsd => ?_⟩
  · rcases Nat.lt_or_ge s d with hsd | hds
    · rw [memcpy, copyForward_getElem?_of_lt n m d s hsd hd, if_neg (by omega)]
    · rw [memcpy, copyForward_getElem? n m d s hds hd hs, if_neg (by omega)]
  · rw [memmove_getElem? m d s n hd hs, if_pos ⟨by omega, by omega⟩, memcpy]
    rcases hds with hds | hds
    · rw [copyForward_getElem? n m d s hds hd hs, if_pos ⟨by omega, by omega⟩]
    · rw [copyForward_getElem?_of_lt n m d s (by omega) hd, if_pos ⟨by omega, by omega⟩,
        Nat.mod_eq_of_lt (by omega)]
      congr 1
      omega
  · rw [memcpy, copyForward_getElem?_of_lt n m d s hsd hd, if_pos ⟨by omega, by omega⟩,
      Nat.add_sub_cancel_left]

/-- `memcpy` of four bytes one place up, over its own source, puts the first byte at the fourth
place, where `memmove` puts the third. -/
theorem memcpy_smear_up_one : 1 + 4 ≤ ([1, 2, 3, 4, 5] : Mem).length ∧
    0 + 4 ≤ ([1, 2, 3, 4, 5] : Mem).length ∧ (memcpy [1, 2, 3, 4, 5] 1 0 4)[1 + 2]? = some 1 :=
  ⟨by decide, by decide, (memcpy_getElem? [1, 2, 3, 4, 5] 1 0 4 (by decide) (by decide)).2.2 2
    (by decide) (by decide)⟩

/-! ## `strlen` -/

/-- `size_t len = 0; while (s[len]) ++len;` over the bytes from the address: the count before the
first NUL, and `none` when the memory ends first. -/
def strlenFrom : Mem → Option Nat
  | [] => none
  | c :: r => if c = 0 then some 0 else (strlenFrom r).map (· + 1)

/-- `strlen(s)` for `s` at address `p`. -/
def strlen (m : Mem) (p : Nat) : Option Nat := strlenFrom (m.drop p)

/-- The count of `strlenFrom`: a NUL at `n` and none before it. -/
theorem strlenFrom_eq_some_iff : ∀ (l : Mem) (n : Nat),
    strlenFrom l = some n ↔ l[n]? = some 0 ∧ ∀ i < n, ∃ c, l[i]? = some c ∧ c ≠ 0
  | [], n => by simp [strlenFrom]
  | c :: r, n => by
    by_cases hc : c = 0
    · subst hc
      cases n with
      | zero => simp [strlenFrom]
      | succ n => simpa [strlenFrom] using fun _ => ⟨0, by omega, by simp⟩
    · cases n with
      | zero => simp [strlenFrom, hc]
      | succ n =>
        simp only [strlenFrom, if_neg hc, Option.map_eq_some', strlenFrom_eq_some_iff r,
          Nat.add_right_cancel_iff, exists_eq_right, List.getElem?_cons_succ]
        refine and_congr_right fun _ =>
          ⟨fun h i hi => ?_, fun h i hi => by simpa using h (i + 1) (by omega)⟩
        cases i with
        | zero => exact ⟨c, List.getElem?_cons_zero, hc⟩
        | succ i => simpa using h i (by omega)

/-- **`strlen`.** `strlen(s)` at address `p` is `n` exactly when the byte at `p + n` is NUL and every
byte from `p` before it is a byte of the memory other than NUL. -/
theorem strlen_eq_some_iff (m : Mem) (p n : Nat) :
    strlen m p = some n ↔ m[p + n]? = some 0 ∧ ∀ i < n, ∃ c, m[p + i]? = some c ∧ c ≠ 0 := by
  simp only [strlen, strlenFrom_eq_some_iff, List.getElem?_drop]

end CefHostBridge
