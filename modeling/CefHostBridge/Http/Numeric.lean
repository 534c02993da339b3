import CefHostBridge.Http.Serve

/-!
# The numeric parameters: `ParseIntDefault` and `ParseBindAddr`

Both functions hand a `std::string` to `strtol(text.c_str(), &end, 10)` and accept it when `*end`
is the terminating NUL. On a string without NUL that test holds exactly when the string is, in its
entirety, optional white space, an optional sign and decimal digits (`IsDecimal`, with
`isDecimal_of_atNul` and `strtol_of_isDecimal` from the scan's parts). So `ParseIntDefault` gives
the numeral's value within `int` and the fallback for every other text
(`parseIntDefault_of_isDecimal`, `parseIntDefault_eq_fallback`), and `/input type=click` posts
exactly the clicks whose coordinates are numerals in `[0, INT32_MAX]` (`serveInput_click`).

A NUL inside the string ends what `c_str()` shows `strtol`, and the test then passes at that NUL:
`5\0x`, which a client sends as `5%00x`, is read as `5` (`parseIntDefault_embedded_nul`).

`ParseBindAddr` splits its argument at the last `:` (`rfind`). `parseBindAddr_spec` gives the
addresses it accepts, and that it accepts every host followed by `:` and a printed port in
`1..65535`; the decimal digits of a printed number are `isDecimal_dec`.
-/

namespace CefHostBridge

/-! ## The digits of `Nat.repr` -/

/-- `Nat.toDigitsCore` puts its digits in front of the accumulator. -/
theorem toDigitsCore_acc : ∀ (fuel n : Nat) (ds : List Char),
    Nat.toDigitsCore 10 fuel n ds = Nat.toDigitsCore 10 fuel n [] ++ ds
  | 0, _, _ => rfl
  | fuel + 1, n, ds => by
    simp only [Nat.toDigitsCore]
    split
    · rfl
    · rw [toDigitsCore_acc fuel _ (_ :: ds), toDigitsCore_acc fuel _ [_]]
      simp

/-- The byte of each decimal digit that `Nat.repr` prints is a digit of that value. -/
theorem digitChar_byte : ∀ d < 10, isDigitIn 10 (Nat.digitChar d).toUInt8 = true ∧
    digitValue (Nat.digitChar d).toUInt8 = d := by
  decide

/-- With fuel above `n`, `Nat.toDigitsCore` prints one or more decimal digits that denote `n`. -/
theorem toDigitsCore_digits : ∀ (fuel n : Nat), n < fuel →
    (Nat.toDigitsCore 10 fuel n []).map Char.toUInt8 ≠ [] ∧
      (∀ c ∈ (Nat.toDigitsCore 10 fuel n []).map Char.toUInt8, isDigitIn 10 c = true) ∧
      digitsValue 10 ((Nat.toDigitsCore 10 fuel n []).map Char.toUInt8) = n
  | 0, _, h => absurd h (Nat.not_lt_zero _)
  | fuel + 1, n, h => by
    obtain ⟨hdig, hval⟩ := digitChar_byte (n % 10) (Nat.mod_lt _ (by decide))
    simp only [Nat.toDigitsCore]
    split
    · simp [digitsValue, hdig, hval]
      omega
    · obtain ⟨-, hall, hv⟩ := toDigitsCore_digits fuel (n / 10) (by omega)
      rw [toDigitsCore_acc]
      refine ⟨by simp, ?_, ?_⟩
      · simp only [List.map_append, List.mem_append, List.map_cons, List.map_nil,
          List.mem_singleton]
        rintro c (hc | rfl)
        · exact hall c hc
        · exact hdig
      · simp only [digitsValue, List.map_append, List.foldl_append] at hv ⊢
        simp [hv, hval]
        omega

/-- `dec` writes one or more decimal digits that denote its argument. -/
theorem dec_digits (n : Nat) :
    dec n ≠ [] ∧ (∀ c ∈ dec n, isDigitIn 10 c = true) ∧ digitsValue 10 (dec n) = n :=
  toDigitsCore_digits (n + 1) n (Nat.lt_succ_self n)

/-- **`dec` prints a decimal numeral.** -/
theorem isDecimal_dec (n : Nat) : IsDecimal (dec n) n := by
  obtain ⟨hne, hall, hv⟩ := dec_digits n
  exact ⟨[], [], dec n, rfl, ⟨by simp, .inl rfl, hne, hall⟩, by simp [signedValue, hv]⟩

/-! ## `ParseIntDefault` -/

/-- A whole decimal numeral within `int` is read as its value. -/
theorem parseIntDefault_of_isDecimal {s : Bytes} {n : Int} (h : IsDecimal s n)
    (hn : -2^31 ≤ n ∧ n < 2^31) (f : CInt) : (parseIntDefault s f).val = n := by
  have h0 := isDecimal_nul h
  have hclamp : max (-2^63) (min n (2^63 - 1)) = n := by omega
  simp only [parseIntDefault, if_neg (isDecimal_ne_nil h), cStr_of_nul h0, strtol_of_isDecimal h,
    atNul_of_nul h0 le_rfl, hclamp, decide_True, Bool.not_true, Bool.false_eq_true, if_false,
    dif_pos hn]

/-- **Every other text without NUL gives the fallback**: the empty text, a text with any byte
after the numeral, and a numeral outside `int`, however many digits it has. -/
theorem parseIntDefault_eq_fallback {s : Bytes} (h0 : (0 : UInt8) ∉ s)
    (h : ∀ n, IsDecimal s n → ¬(-2^31 ≤ n ∧ n < 2^31)) (f : CInt) : parseIntDefault s f = f := by
  by_cases hne : s = []
  · exact if_pos hne
  rw [parseIntDefault, if_neg hne]
  simp only [cStr_of_nul h0]
  by_cases hat : atNul s (strtol s 10).2 = true
  · obtain ⟨n, hn⟩ := isDecimal_of_atNul h0 hne hat
    have hr : ¬(-2^31 ≤ (strtol s 10).1 ∧ (strtol s 10).1 < 2^31) := by
      rw [strtol_of_isDecimal hn]
      have := h n hn
      omega
    simp only [hat, Bool.not_true, Bool.false_eq_true, if_false, dif_neg hr]
  · simp only [hat, Bool.not_false, if_true]

/-- With a negative fallback, `ParseIntDefault` of a text without NUL gives some `x ≥ 0` exactly
when the text is a whole decimal numeral for `x < 2^31`. -/
theorem parseIntDefault_nonneg {s : Bytes} (h0 : (0 : UInt8) ∉ s) {f : CInt} (hf : f.val < 0)
    (x : Int) : (parseIntDefault s f).val = x ∧ 0 ≤ x ↔ IsDecimal s x ∧ 0 ≤ x ∧ x < 2^31 := by
  constructor
  · rintro ⟨rfl, hx0⟩
    by_cases hd : ∃ n, IsDecimal s n ∧ -2^31 ≤ n ∧ n < 2^31
    · obtain ⟨n, hn, hr⟩ := hd
      rw [parseIntDefault_of_isDecimal hn hr f] at hx0 ⊢
      exact ⟨hn, hx0, hr.2⟩
    · rw [parseIntDefault_eq_fallback h0 (fun n hn hr => hd ⟨n, hn, hr⟩) f] at hx0
      omega
  · rintro ⟨hd, hx0, hx1⟩
    exact ⟨parseIntDefault_of_isDecimal hd ⟨by omega, hx1⟩ f, hx0⟩

/-- **`/input type=click` on coordinates without NUL.** It posts a task exactly when `x` and `y`
are whole decimal numerals in `[0, INT32_MAX]`, and the task is the click at their values. -/
theorem serveInput_click {s : SharedState} {req : HttpRequest} {accepted : Bool}
    (ht : toLowerAscii (getParam req (lit "type")) = lit "click")
    (hx : (0 : UInt8) ∉ getParam req (lit "x")) (hy : (0 : UInt8) ∉ getParam req (lit "y"))
    (task : Task) :
    (serveInput s req accepted).posted = some task ↔
      ∃ x y, IsDecimal (getParam req (lit "x")) x ∧ 0 ≤ x ∧ x < 2^31 ∧
        IsDecimal (getParam req (lit "y")) y ∧ 0 ≤ y ∧ y < 2^31 ∧
        task = .nativeInput .mouseClick x y 0 := by
  have hx' := parseIntDefault_nonneg hx (f := .ofSmall (-1) (by decide)) (by decide)
  have hy' := parseIntDefault_nonneg hy (f := .ofSmall (-1) (by decide)) (by decide)
  rw [serveInput]
  dsimp only
  rw [ht, if_neg (by decide), if_pos rfl]
  split
  · next hxy =>
    refine ⟨(fun h => by cases h), ?_⟩
    rintro ⟨x, y, hxd, hx0, hx1, hyd, hy0, hy1, -⟩
    rw [((hx' x).mpr ⟨hxd, hx0, hx1⟩).1, ((hy' y).mpr ⟨hyd, hy0, hy1⟩).1] at hxy
    omega
  · next hxy =>
    rw [postTask_posted, Option.some.injEq, eq_comm]
    constructor
    · rintro rfl
      obtain ⟨hxd, hx0, hx1⟩ := (hx' _).mp ⟨rfl, by omega⟩
      obtain ⟨hyd, hy0, hy1⟩ := (hy' _).mp ⟨rfl, by omega⟩
      exact ⟨_, _, hxd, hx0, hx1, hyd, hy0, hy1, rfl⟩
    · rintro ⟨x, y, hxd, hx0, hx1, hyd, hy0, hy1, rfl⟩
      rw [((hx' x).mpr ⟨hxd, hx0, hx1⟩).1, ((hy' y).mpr ⟨hyd, hy0, hy1⟩).1]

/-- `GET /input?type=click&x=3&y=4`, as `ParseHttpRequest` leaves it. -/
def clickRequest : HttpRequest :=
  ⟨lit "GET", lit "/input", [(lit "type", lit "click"), (lit "x", lit "3"), (lit "y", lit "4")],
    [], [], []⟩

/-- The click at `(3, 4)` is the one task that `clickRequest` posts. -/
theorem serveInput_click_at :
    (toLowerAscii (getParam clickRequest (lit "type")) = lit "click" ∧
      (0 : UInt8) ∉ getParam clickRequest (lit "x") ∧ (0 : UInt8) ∉ getParam clickRequest (lit "y")) ∧
    ((serveInput (SharedState.init .default) clickRequest true).posted =
        some (.nativeInput .mouseClick 3 4 0) ↔
      ∃ x y, IsDecimal (getParam clickRequest (lit "x")) x ∧ 0 ≤ x ∧ x < 2^31 ∧
        IsDecimal (getParam clickRequest (lit "y")) y ∧ 0 ≤ y ∧ y < 2^31 ∧
        Task.nativeInput .mouseClick 3 4 0 = .nativeInput .mouseClick x y 0) :=
  ⟨⟨by decide, by decide, by decide⟩, serveInput_click (by decide) (by decide) (by decide) _⟩

/-- `5\0x` is read as `5` and a lone NUL as `0`, though neither is a decimal numeral: `strtol`
sees the bytes before the NUL, and `*end` is that NUL. Sent as `x=5%00x`, the first one makes
`/input` post a click. -/
theorem parseIntDefault_embedded_nul :
    (parseIntDefault [53, 0, 120] (.ofSmall (-1) (by decide))).val = 5 ∧
      (∀ n, ¬IsDecimal [53, 0, 120] n) ∧
      (parseIntDefault [0] (.ofSmall (-1) (by decide))).val = 0 ∧ (∀ n, ¬IsDecimal [0] n) ∧
      (serveRequest (SharedState.init .default)
        (lit "GET /input?type=click&x=5%00x&y=1 HTTP/1.1\r\n\r\n") true).posted =
        some (.nativeInput .mouseClick 5 1 0) :=
  ⟨rfl, fun _ h => isDecimal_nul h (by decide), rfl, fun _ h => isDecimal_nul h (by decide), rfl⟩

/-! ## `ParseBindAddr` -/

/-- `s.rfind(c)`: the position of the last `c` in `s`. -/
def rfind (c : UInt8) : Bytes → Option Nat
  | [] => none
  | d :: s =>
    match rfind c s with
    | some i => some (i + 1)
    | none => if d = c then some 0 else none

/-- `ParseBindAddr`: the text before the last `:` as the host, when it is not empty, and the text
after it as the port, when it is not empty, `strtol` reads it to its end, and the value is in
`1..65535`. -/
def parseBindAddr (bind_addr : Bytes) : Option (Bytes × UInt16) :=
  match rfind 58 bind_addr with
  | none => none
  | some colon =>
    if colon = 0 ∨ bind_addr.length ≤ colon + 1 then none
    else
      let host := bind_addr.take colon
      let port_str := bind_addr.drop (colon + 1)
      let port := strtol (cStr port_str) 10
      if (!atNul port_str port.2) = true ∨ port.1 ≤ 0 ∨ 65535 < port.1 then none
      else some (host, UInt16.ofNat port.1.toNat)

/-- No position for a byte that does not occur. -/
theorem rfind_of_not_mem {c : UInt8} : ∀ {s : Bytes}, c ∉ s → rfind c s = none
  | [], _ => rfl
  | d :: s, h => by
    rw [rfind, rfind_of_not_mem (fun m => h (List.mem_cons_of_mem _ m))]
    have hd : d ≠ c := by rintro rfl; exact h (List.mem_cons_self _ _)
    exact if_neg hd

/-- The last `c` is the one that no other `c` follows. -/
theorem rfind_append {c : UInt8} {t : Bytes} (ht : c ∉ t) :
    ∀ h : Bytes, rfind c (h ++ c :: t) = some h.length
  | [] => by rw [List.nil_append, rfind, rfind_of_not_mem ht]; exact if_pos rfl
  | d :: h => by rw [List.cons_append, rfind, rfind_append ht h]; rfl

/-- `rfind` finds a `c`. -/
theorem rfind_eq_some {c : UInt8} : ∀ {s : Bytes} {i : Nat}, rfind c s = some i →
    s = s.take i ++ c :: s.drop (i + 1)
  | [], _, h => by cases h
  | d :: s, i, h => by
    rw [rfind] at h
    split at h
    · next j hj =>
      cases h
      rw [List.take_succ_cons, List.drop_succ_cons, List.cons_append, ← rfind_eq_some hj]
    · split at h
      · next hd =>
        cases h
        simp [hd]
      · cases h

/-- A decimal numeral holds no `:`. -/
theorem isDecimal_colon {t : Bytes} {n : Int} (h : IsDecimal t n) : (58 : UInt8) ∉ t := fun hc => by
  rcases isDecimal_mem h hc with h | h | h | h
  · cases h
  · cases h
  · cases h
  · exact absurd (decimalDigit_range h).2 (by decide)

/-- A non-empty host, `:` and a whole decimal numeral in `1..65535` are that host and port. -/
theorem parseBindAddr_append {h t : Bytes} {n : Int} (hh : h ≠ []) (ht : IsDecimal t n)
    (hn : 1 ≤ n ∧ n ≤ 65535) : parseBindAddr (h ++ 58 :: t) = some (h, UInt16.ofNat n.toNat) := by
  have h0 := isDecimal_nul ht
  have hclamp : max (-2^63) (min n (2^63 - 1)) = n := by omega
  have hlen : ¬(h.length = 0 ∨ (h ++ 58 :: t).length ≤ h.length + 1) := by
    have := List.length_pos.mpr (isDecimal_ne_nil ht)
    simp only [List.length_eq_zero, hh, List.length_append, List.length_cons, false_or]
    omega
  have hdrop : (h ++ 58 :: t).drop (h.length + 1) = t := by
    rw [← List.drop_drop, List.drop_left]; rfl
  rw [parseBindAddr, rfind_append (isDecimal_colon ht)]
  dsimp only
  rw [if_neg hlen]
  simp only [List.take_left, hdrop, cStr_of_nul h0, strtol_of_isDecimal ht, atNul_of_nul h0 le_rfl,
    hclamp, decide_True, Bool.not_true, Bool.false_eq_true, false_or]
  rw [if_neg (by omega)]

/-- What `ParseBindAddr` accepts from a string without NUL: a non-empty host, `:` and a whole
decimal numeral for the port. -/
theorem parseBindAddr_eq_some {s h : Bytes} {p : UInt16} (h0 : (0 : UInt8) ∉ s)
    (hs : parseBindAddr s = some (h, p)) :
    ∃ t, s = h ++ 58 :: t ∧ h ≠ [] ∧ IsDecimal t p.toNat ∧ 1 ≤ p.toNat := by
  cases hc : rfind 58 s with
  | none => rw [parseBindAddr, hc] at hs; cases hs
  | some colon =>
    rw [parseBindAddr, hc] at hs
    dsimp only at hs
    split_ifs at hs with hlen hport
    obtain ⟨rfl, hpp⟩ := Prod.mk.inj (Option.some.inj hs)
    have ht0 : (0 : UInt8) ∉ s.drop (colon + 1) := fun m => h0 (List.mem_of_mem_drop m)
    have htne : s.drop (colon + 1) ≠ [] := by
      simp only [ne_eq, List.drop_eq_nil_iff]
      omega
    rw [cStr_of_nul ht0] at hport hpp
    obtain ⟨n, hn⟩ := isDecimal_of_atNul ht0 htne (by simpa using (not_or.mp hport).1)
    rw [strtol_of_isDecimal hn] at hport hpp
    have hp : (p.toNat : Int) = n := by
      rw [← hpp, show max (-2^63) (min n (2^63 - 1)) = n by omega,
        UInt16.toNat_ofNat_of_lt (by simp only [UInt16.size]; omega)]
      omega
    refine ⟨_, rfind_eq_some hc, ?_, hp ▸ hn, by omega⟩
    simp only [ne_eq, List.take_eq_nil_iff, not_or]
    exact ⟨fun e => hlen (.inl e), fun e => hlen (.inr (by simp [e]))⟩

/-- **`ParseBindAddr`.** On a string without NUL it returns `(h, p)` exactly when the string is
`h`, `:` and a whole decimal numeral for `p ≥ 1`, with `h` not empty; the split is at the last
`:`, since a numeral holds none. Every non-empty host followed by `:` and a printed port in
`1..65535` is that host and port. -/
theorem parseBindAddr_spec :
    (∀ s : Bytes, (0 : UInt8) ∉ s → ∀ (h : Bytes) (p : UInt16),
      parseBindAddr s = some (h, p) ↔
        ∃ t, s = h ++ 58 :: t ∧ h ≠ [] ∧ IsDecimal t p.toNat ∧ 1 ≤ p.toNat) ∧
    (∀ (h : Bytes) (p : Nat), h ≠ [] → 1 ≤ p → p ≤ 65535 →
      parseBindAddr (h ++ 58 :: dec p) = some (h, UInt16.ofNat p)) := by
  refine ⟨fun s h0 h p => ⟨parseBindAddr_eq_some h0, ?_⟩, fun h p hh h1 h2 => ?_⟩
  · rintro ⟨t, rfl, hh, ht, hp⟩
    have hlt := UInt16.toNat_lt_size p
    rw [parseBindAddr_append hh ht ⟨by omega, by simp only [UInt16.size] at hlt; omega⟩]
    simpa using UInt16.toNat.inj (UInt16.toNat_ofNat_of_lt hlt)
  · simpa using parseBindAddr_append hh (isDecimal_dec p) ⟨by omega, by omega⟩

/-- The default `--bind` address is the loopback host and port 37820. -/
theorem parseBindAddr_default :
    Args.default.bind_addr = lit "127.0.0.1" ++ 58 :: dec 37820 ∧
      parseBindAddr (lit "127.0.0.1" ++ 58 :: dec 37820) =
        some (lit "127.0.0.1", UInt16.ofNat 37820) :=
  ⟨by decide, parseBindAddr_spec.2 _ _ (by decide) (by decide) (by decide)⟩

end CefHostBridge
