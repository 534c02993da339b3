import Mathlib

/-!
# `_sbrk` of `src/sdk/newlib_cpp/newlib_syscalls.cpp`

`_sbrk` keeps the program break in the static `heap_break`, which is `0` until the first call
sets it from `brk` at `initial_heap_base()`. A call checks that the increment keeps the request
inside the address space, rounds the request up to 16 with `align_up_16`, asks `brk` for it, and
accepts any non-negative result at or above the request as the new break, returning the old one.
The results of `brk` are the environment: the model takes them as a list of `long`s, and the
link-time base as a parameter.

`align_up_16` computes `(value + 15) & ~15` in `uintptr_t`, so a request above `2^64 - 16`, which
the `UINTPTR_MAX` test against `ENOMEM` lets through, wraps to `0` (`alignUp16_toNat`), and `brk`
then satisfies it with any non-negative break. Apart from
that case a successful call leaves the break at or above the end of the block it hands out
(`sbrkFrom_ok`), so along a run the blocks are pairwise disjoint, in order (`sbrkRun_blocks`).
`sbrk_wrap` runs the wrap: two successful calls hand out the same block.
-/

namespace CefHostBridge

/-- A C `long` or `ptrdiff_t`: a 64-bit two's complement value. -/
structure CLong where
  /-- The value. -/
  val : Int
  /-- `LONG_MIN <= val`. -/
  ge : -2^63 ≤ val
  /-- `val <= LONG_MAX`. -/
  lt : val < 2^63
  deriving DecidableEq

/-! ## `align_up_16` -/

/-- Clearing the low four bits of a 64-bit number rounds it down to a multiple of 16. -/
theorem land_clear_low4 {x : Nat} (hx : x < 2^64) : x &&& (2^64 - 16) = x / 16 * 16 := by
  apply Nat.eq_of_testBit_eq
  intro i
  have h16 : x / 16 * 16 = x >>> 4 <<< 4 := by rw [Nat.shiftLeft_eq, Nat.shiftRight_eq_div_pow]
  have hm : (2^64 - 16 : Nat) = (2^60 - 1) <<< 4 := by rw [Nat.shiftLeft_eq]; norm_num
  rw [h16, hm, Nat.testBit_and, Nat.testBit_shiftLeft, Nat.testBit_shiftLeft,
    Nat.testBit_two_pow_sub_one, Nat.testBit_shiftRight]
  by_cases h4 : 4 ≤ i
  · by_cases h64 : i < 64
    · simp [h4, show i - 4 < 60 by omega, show 4 + (i - 4) = i by omega]
    · have : x.testBit i = false :=
        Nat.testBit_lt_two_pow (lt_of_lt_of_le hx (Nat.pow_le_pow_right (by norm_num) (by omega)))
      simp [h4, show ¬(i - 4 < 60) by omega, this]
  · simp [h4]

/-- `align_up_16`. -/
def alignUp16 (value : UInt64) : UInt64 := (value + 15) &&& ~~~15

/-- `align_up_16` rounds up to a multiple of 16, modulo `2^64`. -/
theorem alignUp16_toNat (v : UInt64) : (alignUp16 v).toNat = (v.toNat + 15) % 2^64 / 16 * 16 := by
  have hand : (alignUp16 v).toNat = (v + 15).toNat &&& (~~~(15 : UInt64)).toNat :=
    BitVec.toNat_and _ _
  have hnot : (~~~(15 : UInt64)).toNat = 2^64 - 16 := by decide
  have hadd : (v + 15).toNat = (v.toNat + 15) % 2^64 := UInt64.toNat_add v 15
  rw [hand, hnot, hadd, land_clear_low4 (Nat.mod_lt _ (by norm_num))]

/-- Up to `2^64 - 16`, `align_up_16` does not go below its argument. -/
theorem le_alignUp16 {v : UInt64} (h : v.toNat ≤ 2^64 - 16) : v.toNat ≤ (alignUp16 v).toNat := by
  rw [alignUp16_toNat, Nat.mod_eq_of_lt (by omega)]
  omega

/-! ## `_sbrk` -/

/-- `initial_heap_base()`: the address of `_end`, else of `end`, else `0x720000000`, rounded up
by `align_up_16`. The two addresses are the linker's, `0` for a weak symbol it did not define. -/
def initialHeapBase (end_addr end_addr' : UInt64) : UInt64 :=
  let base := if end_addr = 0 then end_addr' else end_addr
  alignUp16 (if base = 0 then 0x720000000 else base)

/-- `UINTPTR_MAX`. -/
def uintptrMax : UInt64 := UInt64.ofNat (2^64 - 1)

/-- The `requested` break of `_sbrk` before rounding: `current` moved by `increment`, or `none`
when that leaves the address space. -/
def sbrkRequest (current : UInt64) (increment : CLong) : Option UInt64 :=
  if 0 ≤ increment.val then
    let inc := UInt64.ofNat increment.val.toNat
    if current > uintptrMax - inc then none else some (current + inc)
  else
    let dec := UInt64.ofNat (-increment.val).toNat
    if dec > current then none else some (current - dec)

/-- What one `_sbrk` call leaves: its return value, `none` for `(void*)-1`, the new
`heap_break`, and the `brk` results it did not use. -/
structure SbrkStep where
  ret : Option UInt64
  heap_break : UInt64
  rest : List CLong
  deriving DecidableEq

/-- `_sbrk` after the first-call initialization, from `heap_break = current`; `none` when it
calls `brk` after the last result given. -/
def sbrkFrom (current : UInt64) (increment : CLong) (rcs : List CLong) : Option SbrkStep :=
  match sbrkRequest current increment with
  | none => some ⟨none, current, rcs⟩
  | some requested =>
    match rcs with
    | [] => none
    | rc :: rest =>
      if rc.val < 0 then some ⟨none, current, rest⟩
      else if UInt64.ofNat rc.val.toNat < alignUp16 requested then some ⟨none, current, rest⟩
      else some ⟨some current, UInt64.ofNat rc.val.toNat, rest⟩

/-- `_sbrk(increment)` with `heap_break` and `base`, the value of `initial_heap_base()`
(`initialHeapBase` of the link-time addresses), on the results of its `brk` calls. -/
def sbrk (base heap_break : UInt64) (increment : CLong) (rcs : List CLong) : Option SbrkStep :=
  if heap_break = 0 then
    match rcs with
    | [] => none
    | init_rc :: rest =>
      if init_rc.val < 0 then some ⟨none, base, rest⟩
      else sbrkFrom (UInt64.ofNat init_rc.val.toNat) increment rest
  else sbrkFrom heap_break increment rcs

/-- With `increment ≥ 0`, the request that passes the overflow test is `current + increment`,
below `2^64`. -/
theorem sbrkRequest_of_nonneg {current requested : UInt64} {increment : CLong}
    (hinc : 0 ≤ increment.val) (h : sbrkRequest current increment = some requested) :
    requested.toNat = current.toNat + increment.val.toNat := by
  unfold sbrkRequest at h
  rw [if_pos hinc] at h
  dsimp only at h
  split_ifs at h with hover
  cases h
  have hlt := increment.lt
  have hi : (UInt64.ofNat increment.val.toNat).toNat = increment.val.toNat :=
    UInt64.toNat_ofNat_of_lt (by simp only [UInt64.size]; omega)
  have hmax : (uintptrMax - UInt64.ofNat increment.val.toNat).toNat =
      2^64 - 1 - increment.val.toNat := by
    rw [UInt64.toNat_sub, hi, show uintptrMax.toNat = 2^64 - 1 by decide]
    simp only [UInt64.size]
    omega
  have hover' : ¬(uintptrMax - UInt64.ofNat increment.val.toNat).toNat < current.toNat := hover
  rw [hmax] at hover'
  rw [UInt64.toNat_add, hi, Nat.mod_eq_of_lt (by simp only [UInt64.size]; omega)]

/-- A failed call leaves `heap_break` at `current`. -/
theorem sbrkFrom_fail {current : UInt64} {increment : CLong} {rcs : List CLong} {st : SbrkStep}
    (h : sbrkFrom current increment rcs = some st) (hret : st.ret = none) :
    st.heap_break = current := by
  unfold sbrkFrom at h
  split at h
  · cases h; rfl
  · split at h
    · cases h
    · split_ifs at h <;> cases h <;> first | rfl | cases hret

/-- **A successful call.** With `increment ≥ 0` it returns `current`, and unless the request
`current + increment` is above `2^64 - 16`, it leaves the break at or above it. -/
theorem sbrkFrom_ok {current : UInt64} {increment : CLong} {rcs : List CLong} {st : SbrkStep}
    {p : UInt64} (hinc : 0 ≤ increment.val) (h : sbrkFrom current increment rcs = some st)
    (hret : st.ret = some p) :
    p = current ∧ (current.toNat + increment.val.toNat ≤ 2^64 - 16 →
      current.toNat + increment.val.toNat ≤ st.heap_break.toNat) := by
  cases hreq : sbrkRequest current increment with
  | none => rw [sbrkFrom, hreq] at h; cases h; cases hret
  | some requested =>
    rw [sbrkFrom, hreq] at h
    cases rcs with
    | nil => cases h
    | cons rc rest =>
      dsimp only at h
      split_ifs at h with hneg hlow <;> cases h <;> cases hret
      refine ⟨rfl, fun hwrap => ?_⟩
      have hlow' : ¬(UInt64.ofNat rc.val.toNat).toNat < (alignUp16 requested).toNat := hlow
      have hup := le_alignUp16 (v := requested) (by rw [sbrkRequest_of_nonneg hinc hreq]; exact hwrap)
      rw [sbrkRequest_of_nonneg hinc hreq] at hup
      show _ ≤ (UInt64.ofNat rc.val.toNat).toNat
      omega

/-- A failed call does not lower `heap_break`. -/
theorem sbrk_fail {base hb : UInt64} {increment : CLong} {rcs : List CLong} {st : SbrkStep}
    (h : sbrk base hb increment rcs = some st) (hret : st.ret = none) :
    hb.toNat ≤ st.heap_break.toNat := by
  unfold sbrk at h
  by_cases h0 : hb = 0
  · simp only [h0, UInt64.toNat_zero, Nat.zero_le]
  · rw [if_neg h0] at h
    rw [sbrkFrom_fail h hret]

/-- **One `_sbrk` call with `increment ≥ 0`.** A success returns `heap_break`, or, when that was
`0`, the break `init_rc` that `brk` gave the initialization; it is at or above the old break, and
unless the request is above `2^64 - 16`, the new break is at or above the end of the block. -/
theorem sbrk_ok {base hb : UInt64} {increment : CLong} {rcs : List CLong} {st : SbrkStep}
    {p : UInt64} (hinc : 0 ≤ increment.val) (h : sbrk base hb increment rcs = some st)
    (hret : st.ret = some p) :
    (hb = 0 → ∃ init_rc rest, rcs = init_rc :: rest ∧ 0 ≤ init_rc.val ∧
      p = UInt64.ofNat init_rc.val.toNat) ∧ (hb ≠ 0 → p = hb) ∧ hb.toNat ≤ p.toNat ∧
      (p.toNat + increment.val.toNat ≤ 2^64 - 16 →
        p.toNat + increment.val.toNat ≤ st.heap_break.toNat) := by
  unfold sbrk at h
  by_cases h0 : hb = 0
  · rw [if_pos h0] at h
    cases rcs with
    | nil => cases h
    | cons init_rc rest =>
      dsimp only at h
      split_ifs at h with hneg
      · cases h; cases hret
      · obtain ⟨rfl, hup⟩ := sbrkFrom_ok hinc h hret
        exact ⟨fun _ => ⟨init_rc, rest, rfl, not_lt.mp hneg, rfl⟩, fun h => absurd h0 h,
          by simp [h0], hup⟩
  · rw [if_neg h0] at h
    obtain ⟨rfl, hup⟩ := sbrkFrom_ok hinc h hret
    exact ⟨fun h => absurd h h0, fun _ => rfl, le_rfl, hup⟩

/-! ## Runs of calls -/

/-- Successive `_sbrk` calls with the increments `incs` on one stream of `brk` results, from
`heap_break`: the block `(p, increment)` of each successful call, in order, and the final
`heap_break`; `none` when the stream runs out. -/
def sbrkRun (base heap_break : UInt64) : List CLong → List CLong →
    Option (List (Nat × Nat) × UInt64)
  | [], _ => some ([], heap_break)
  | increment :: incs, rcs =>
    match sbrk base heap_break increment rcs with
    | none => none
    | some st =>
      (sbrkRun base st.heap_break incs st.rest).map fun r =>
        ((st.ret.map fun p => (p.toNat, increment.val.toNat)).toList ++ r.1, r.2)

/-- **The blocks of a run.** Along a run with increments `≥ 0` whose successful calls all ask for
at most `2^64 - 16`, the break never goes down, every block lies between the starting and the
final break, and each block ends at or before the start of every later one. -/
theorem sbrkRun_blocks (base : UInt64) : ∀ (incs rcs : List CLong) (hb : UInt64)
    (blocks : List (Nat × Nat)) (hbF : UInt64), (∀ i ∈ incs, 0 ≤ i.val) →
    sbrkRun base hb incs rcs = some (blocks, hbF) → (∀ b ∈ blocks, b.1 + b.2 ≤ 2^64 - 16) →
    hb.toNat ≤ hbF.toNat ∧ (∀ b ∈ blocks, hb.toNat ≤ b.1 ∧ b.1 + b.2 ≤ hbF.toNat) ∧
      blocks.Pairwise (fun x y => x.1 + x.2 ≤ y.1)
  | [], _, hb, blocks, hbF, _, h, _ => by
    cases h
    exact ⟨le_rfl, nofun, .nil⟩
  | increment :: incs, rcs, hb, blocks, hbF, hinc, h, hwrap => by
    cases hst : sbrk base hb increment rcs with
    | none => rw [sbrkRun, hst] at h; cases h
    | some st =>
      rw [sbrkRun, hst] at h
      obtain ⟨⟨blocks', hbF'⟩, hrun, heq⟩ := Option.map_eq_some'.mp h
      cases heq
      have hinc0 := hinc increment (List.mem_cons_self _ _)
      obtain ⟨hmono, hin, hpw⟩ := sbrkRun_blocks base incs st.rest st.heap_break blocks' hbF'
        (fun i hi => hinc i (List.mem_cons_of_mem _ hi)) hrun
        (fun b hb => hwrap b (List.mem_append_right _ hb))
      cases hret : st.ret with
      | none =>
        have hle := sbrk_fail hst hret
        simp only [hret, Option.map_none', Option.toList_none, List.nil_append]
        exact ⟨hle.trans hmono, fun b hb => ⟨hle.trans (hin b hb).1, (hin b hb).2⟩, hpw⟩
      | some p =>
        simp only [hret, Option.map_some', Option.toList_some, List.singleton_append] at hwrap ⊢
        obtain ⟨-, -, hp, hup⟩ := sbrk_ok hinc0 hst hret
        -- the new block ends at or below the break that the later blocks start from
        have hend := hup (hwrap _ (List.mem_cons_self _ _))
        have hbrk : hb.toNat ≤ st.heap_break.toNat := by omega
        refine ⟨hbrk.trans hmono, ?_, .cons (fun b hb => hend.trans (hin b hb).1) hpw⟩
        rintro b (_ | ⟨_, hb⟩)
        · exact ⟨hp, hend.trans hmono⟩
        · exact ⟨hbrk.trans (hin b hb).1, (hin b hb).2⟩

/-- **`_sbrk` hands out disjoint blocks, up to the wrap of `align_up_16`.** With increments
`≥ 0` and any results of `brk`: a call that does not return `(void*)-1` returns `p`, the old
`heap_break` or, when that was `0`, the break `init_rc` that `brk` gave the initialization, and
it leaves `heap_break ≥ p + increment` whenever `p + increment ≤ 2^64 - 16`. Along every run from
the program's start whose successful calls stay within that bound, each block `[p, p + increment)`
ends at or before the start of every later one, and below the final break. -/
theorem sbrk_blocks :
    (∀ (base hb : UInt64) (increment : CLong) (rcs : List CLong) (st : SbrkStep) (p : UInt64),
      0 ≤ increment.val → sbrk base hb increment rcs = some st → st.ret = some p →
        (hb = 0 → ∃ init_rc rest, rcs = init_rc :: rest ∧ 0 ≤ init_rc.val ∧
          p = UInt64.ofNat init_rc.val.toNat) ∧ (hb ≠ 0 → p = hb) ∧
        (p.toNat + increment.val.toNat ≤ 2^64 - 16 →
          p.toNat + increment.val.toNat ≤ st.heap_break.toNat)) ∧
    (∀ (base : UInt64) (incs rcs : List CLong) (blocks : List (Nat × Nat)) (hb : UInt64),
      (∀ i ∈ incs, 0 ≤ i.val) → sbrkRun base 0 incs rcs = some (blocks, hb) →
      (∀ b ∈ blocks, b.1 + b.2 ≤ 2^64 - 16) →
        blocks.Pairwise (fun x y => x.1 + x.2 ≤ y.1) ∧ ∀ b ∈ blocks, b.1 + b.2 ≤ hb.toNat) :=
  ⟨fun _ _ _ _ _ _ hinc h hret =>
      have hok := sbrk_ok hinc h hret
      ⟨hok.1, hok.2.1, hok.2.2.2⟩,
    fun base incs rcs blocks hb hinc h hwrap =>
      have hrun := sbrkRun_blocks base incs rcs 0 blocks hb hinc h hwrap
      ⟨hrun.2.2, fun b hb => (hrun.2.1 b hb).2⟩⟩

/-- Two calls of `_sbrk(16)` from the start, where `brk` puts the break at `4096` and then
where asked. -/
theorem sbrk_blocks_from_start :
    [(4096, 16), (4112, 16)].Pairwise (fun x y : Nat × Nat => x.1 + x.2 ≤ y.1) ∧
      ∀ b ∈ [(4096, 16), (4112, 16)], b.1 + b.2 ≤ (UInt64.ofNat 4128).toNat :=
  sbrk_blocks.2 4096 [⟨16, by norm_num, by norm_num⟩, ⟨16, by norm_num, by norm_num⟩]
    [⟨4096, by norm_num, by norm_num⟩, ⟨4112, by norm_num, by norm_num⟩,
      ⟨4128, by norm_num, by norm_num⟩] _ _ (by decide) (by decide) (by decide)

/-- `LONG_MAX`, as an increment and as a break that `brk` returns. -/
def longMax : CLong := ⟨2^63 - 1, by norm_num, by norm_num⟩

/-- `0` as a `long`. -/
def longZero : CLong := ⟨0, by norm_num, by norm_num⟩

/-- `_sbrk(LONG_MAX)` from the start, where `brk` gives `LONG_MAX` to the initialization and `0`
to the request. The request `2^64 - 2` passes the `UINTPTR_MAX` test that guards against
`ENOMEM`, and `align_up_16` wraps it to `0`, so the call returns `LONG_MAX` and leaves
`heap_break = 0`, below `p + increment`. A second such call initializes again and hands out the
same block. -/
theorem sbrk_wrap :
    sbrkRequest (UInt64.ofNat (2^63 - 1)) longMax = some (UInt64.ofNat (2^64 - 2)) ∧
      alignUp16 (UInt64.ofNat (2^64 - 2)) = 0 ∧
      sbrk 4096 0 longMax [longMax, longZero] = some ⟨some (UInt64.ofNat (2^63 - 1)), 0, []⟩ ∧
      (0 : UInt64).toNat < (2^63 - 1) + (2^63 - 1) ∧
      sbrkRun 4096 0 [longMax, longMax] [longMax, longZero, longMax, longZero] =
        some ([(2^63 - 1, 2^63 - 1), (2^63 - 1, 2^63 - 1)], 0) := by
  decide

end CefHostBridge
