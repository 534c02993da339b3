import CefHostBridge.Newlib.Sbrk

/-!
# The heap of `_sbrk`, with increments of either sign

Newlib's `malloc` grows its arena with `_sbrk(n)` and gives memory back with `_sbrk(-n)`. What it
owns after a sequence of calls is the region from the starting break up to that break plus the
sum of the increments of the calls that succeeded. `_sbrk` keeps two promises about it:
each successful call hands out memory at or above the end of what the program owns before it,
so a new block never overlaps memory still in use, and the break stays at or above the end of
what the program owns, so all of it lies below the break (`sbrkCalls_owned`).

Both hold for every sequence of increments and every result of `brk`, as long as no successful
request is above `2^64 - 16`, where `align_up_16` wraps (`Newlib/Sbrk.lean`). They also survive a
call that brings the break down to `0`: the next call initializes again, and what the program owns
then ends at or below `0`. `sbrkFrom_owned` and `sbrk_owned` are the step, for a call after and
with the initialization; `sbrkCalls_owned_from` is the run, by induction on the calls.
-/

namespace CefHostBridge

/-- The request of `_sbrk` is the break moved by the increment, of either sign. -/
theorem sbrkRequest_toNat {current requested : UInt64} {increment : CLong}
    (h : sbrkRequest current increment = some requested) :
    (requested.toNat : Int) = current.toNat + increment.val := by
  by_cases hinc : 0 ≤ increment.val
  · have := sbrkRequest_of_nonneg hinc h
    omega
  · unfold sbrkRequest at h
    rw [if_neg hinc] at h
    dsimp only at h
    split_ifs at h with hunder
    cases h
    have hd : (UInt64.ofNat (-increment.val).toNat).toNat = (-increment.val).toNat :=
      UInt64.toNat_ofNat_of_lt (by have := increment.ge; simp only [UInt64.size]; omega)
    have hle : ¬current.toNat < (UInt64.ofNat (-increment.val).toNat).toNat := hunder
    rw [hd] at hle
    rw [UInt64.toNat_sub_of_le _ _ (by show (UInt64.ofNat _).toNat ≤ current.toNat; omega), hd]
    omega

/-- **One call after the initialization.** From `heap_break = current`, a successful call whose
request does not wrap returns `current` and leaves the break at or above `current + increment`; a
failed call leaves it at `current`. -/
theorem sbrkFrom_owned {current : UInt64} {increment : CLong} {rcs : List CLong} {st : SbrkStep}
    (h : sbrkFrom current increment rcs = some st) :
    (∀ p, st.ret = some p → p.toNat + increment.val ≤ 2^64 - 16 →
      p = current ∧ current.toNat + increment.val ≤ st.heap_break.toNat) ∧
    (st.ret = none → st.heap_break = current) := by
  refine ⟨fun p hret hwrap => ?_, sbrkFrom_fail h⟩
  cases hreq : sbrkRequest current increment with
  | none => rw [sbrkFrom, hreq] at h; cases h; cases hret
  | some requested =>
    rw [sbrkFrom, hreq] at h
    cases rcs with
    | nil => cases h
    | cons rc rest =>
      dsimp only at h
      split_ifs at h with hneg hlow <;> cases h <;> cases hret
      refine ⟨rfl, ?_⟩
      have hlow' : ¬(UInt64.ofNat rc.val.toNat).toNat < (alignUp16 requested).toNat := hlow
      have hr := sbrkRequest_toNat hreq
      have hup := le_alignUp16 (v := requested) (by omega)
      show _ ≤ ((UInt64.ofNat rc.val.toNat).toNat : Int)
      omega

/-- **One call.** If the break is at or above `top`, a successful call whose request does not wrap
returns a pointer at or above `top` and leaves the break at or above `top + increment`, and a
failed call leaves it at or above `top`. A first call, from `heap_break = 0`, needs `top ≤ 0`. -/
theorem sbrk_owned {base hb : UInt64} {increment : CLong} {rcs : List CLong} {st : SbrkStep}
    {top : Int} (htop : top ≤ hb.toNat) (h : sbrk base hb increment rcs = some st) :
    (∀ p, st.ret = some p → p.toNat + increment.val ≤ 2^64 - 16 →
      top ≤ p.toNat ∧ top + increment.val ≤ st.heap_break.toNat) ∧
    (st.ret = none → top ≤ st.heap_break.toNat) := by
  unfold sbrk at h
  by_cases h0 : hb = 0
  · rw [if_pos h0] at h
    have htop0 : top ≤ 0 := by simpa [h0] using htop
    cases rcs with
    | nil => cases h
    | cons init_rc rest =>
      dsimp only at h
      split_ifs at h
      · cases h
        exact ⟨fun _ hret => (by cases hret), fun _ => by omega⟩
      · obtain ⟨hok, hfail⟩ := sbrkFrom_owned h
        refine ⟨fun p hret hwrap => ?_, fun hret => by rw [hfail hret]; omega⟩
        obtain ⟨rfl, hup⟩ := hok p hret hwrap
        omega
  · rw [if_neg h0] at h
    obtain ⟨hok, hfail⟩ := sbrkFrom_owned h
    refine ⟨fun p hret hwrap => ?_, fun hret => by rw [hfail hret]; exact htop⟩
    obtain ⟨rfl, hup⟩ := hok p hret hwrap
    omega

/-! ## Runs of calls -/

/-- Successive `_sbrk` calls with the increments `incs` on one stream of `brk` results, from
`heap_break`: the pointer and the signed increment of each successful call, in order, and the
final break; `none` when the stream runs out. -/
def sbrkCalls (base heap_break : UInt64) : List CLong → List CLong →
    Option (List (UInt64 × Int) × UInt64)
  | [], _ => some ([], heap_break)
  | increment :: incs, rcs =>
    match sbrk base heap_break increment rcs with
    | none => none
    | some st =>
      (sbrkCalls base st.heap_break incs st.rest).map fun r =>
        ((st.ret.map fun p => (p, increment.val)).toList ++ r.1, r.2)

/-- Each successful call, in order, returns a pointer at or above `top`, the end of what the
program owns before it, and moves that end by its increment. -/
def AboveOwned : Int → List (UInt64 × Int) → Prop
  | _, [] => True
  | top, c :: cs => top ≤ c.1.toNat ∧ AboveOwned (top + c.2) cs

/-- The run, from any `top` at or below the starting break. -/
theorem sbrkCalls_owned_from (base : UInt64) : ∀ (incs rcs : List CLong) (hb : UInt64) (top : Int)
    (calls : List (UInt64 × Int)) (hbF : UInt64), top ≤ hb.toNat →
    sbrkCalls base hb incs rcs = some (calls, hbF) → (∀ c ∈ calls, c.1.toNat + c.2 ≤ 2^64 - 16) →
    AboveOwned top calls ∧ top + (calls.map Prod.snd).sum ≤ hbF.toNat
  | [], _, hb, top, calls, hbF, htop, h, _ => by
    cases h
    exact ⟨trivial, by simpa using htop⟩
  | increment :: incs, rcs, hb, top, calls, hbF, htop, h, hwrap => by
    cases hst : sbrk base hb increment rcs with
    | none => rw [sbrkCalls, hst] at h; cases h
    | some st =>
      rw [sbrkCalls, hst] at h
      obtain ⟨⟨calls', hbF'⟩, hrun, heq⟩ := Option.map_eq_some'.mp h
      cases heq
      obtain ⟨hok, hfail⟩ := sbrk_owned htop hst
      cases hret : st.ret with
      | none =>
        simp only [hret, Option.map_none', Option.toList_none, List.nil_append] at hwrap ⊢
        exact sbrkCalls_owned_from base incs st.rest st.heap_break top calls' hbF' (hfail hret)
          hrun hwrap
      | some p =>
        simp only [hret, Option.map_some', Option.toList_some, List.singleton_append,
          List.mem_cons, forall_eq_or_imp] at hwrap ⊢
        obtain ⟨hp, hbrk⟩ := hok p hret hwrap.1
        obtain ⟨habove, hend⟩ := sbrkCalls_owned_from base incs st.rest st.heap_break
          (top + increment.val) calls' hbF' hbrk hrun hwrap.2
        refine ⟨⟨hp, habove⟩, ?_⟩
        simp only [List.map_cons, List.sum_cons]
        omega

/-- **`_sbrk` never hands out memory the program still owns.** For every sequence of increments,
of either sign, from every break, and for every result of `brk`: as long as no successful request
is above `2^64 - 16`, each successful call returns a pointer at or above the end of what the
program owns before it (the starting break plus the increments of the earlier successful calls),
and the final break is at or above the end of what it owns after the run. -/
theorem sbrkCalls_owned (base hb : UInt64) (incs rcs : List CLong) (calls : List (UInt64 × Int))
    (hbF : UInt64) (h : sbrkCalls base hb incs rcs = some (calls, hbF))
    (hwrap : ∀ c ∈ calls, c.1.toNat + c.2 ≤ 2^64 - 16) :
    AboveOwned hb.toNat calls ∧ hb.toNat + (calls.map Prod.snd).sum ≤ hbF.toNat :=
  sbrkCalls_owned_from base incs rcs hb hb.toNat calls hbF le_rfl h hwrap

/-- The increments `32`, `-16` and `16`. -/
def growShrinkGrow : List CLong :=
  [⟨32, by norm_num, by norm_num⟩, ⟨-16, by norm_num, by norm_num⟩, ⟨16, by norm_num, by norm_num⟩]

/-- `brk` putting the break where `growShrinkGrow` asks from `4096`. -/
def growShrinkGrowBrks : List CLong :=
  [⟨4128, by norm_num, by norm_num⟩, ⟨4112, by norm_num, by norm_num⟩, ⟨4128, by norm_num, by norm_num⟩]

/-- The successful calls of `growShrinkGrow` from `4096`. -/
def growShrinkGrowCalls : List (UInt64 × Int) := [(4096, 32), (4128, -16), (4112, 16)]

/-- From the break `4096`, `_sbrk(32)`, `_sbrk(-16)` and `_sbrk(16)`: the third call hands out again
the 16 bytes that the second gave back, and nothing the program still owns. -/
theorem sbrkCalls_grow_shrink_grow :
    sbrkCalls 4096 4096 growShrinkGrow growShrinkGrowBrks = some (growShrinkGrowCalls, 4128) ∧
      (∀ c ∈ growShrinkGrowCalls, (c.1.toNat : Int) + c.2 ≤ 2^64 - 16) ∧
      AboveOwned (4096 : UInt64).toNat growShrinkGrowCalls ∧
      ((4096 : UInt64).toNat : Int) + (growShrinkGrowCalls.map Prod.snd).sum ≤ (4128 : UInt64).toNat :=
  ⟨by decide, by decide,
    sbrkCalls_owned 4096 4096 growShrinkGrow growShrinkGrowBrks growShrinkGrowCalls 4128 (by decide)
      (by decide)⟩

end CefHostBridge
