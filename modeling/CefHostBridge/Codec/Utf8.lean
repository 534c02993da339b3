import CefHostBridge.Codec.Json

/-!
# UTF-8 (RFC 3629 §4) and the bodies the bridge writes

RFC 8259 §8.1 asks that a JSON text exchanged between systems be encoded in UTF-8. The reader of
`Codec/Json.lean` works on bytes and takes every byte from `0x20` up inside a string, so that
condition is stated apart: `Utf8Char` and `Utf8` transcribe the grammar of RFC 3629 §4, one
constructor per alternative of `UTF8-char`. A body is a JSON text of RFC 8259 when it is `Utf8`
and the reader takes it.

`JsonEscape` rewrites only ASCII bytes and copies every byte from `0x80` up, so it keeps UTF-8
text UTF-8 (`Utf8.jsonEscape`), and the object writer on UTF-8 keys and value texts writes UTF-8
(`utf8_objectText`). `JsonEscapable` names the strings that `JsonEscape` writes as the body of an
RFC 8259 string: UTF-8, with no control byte but tab, line feed and carriage return.
-/

namespace CefHostBridge

/-- `UTF8-tail = %x80-BF` -/
def Utf8Tail (b : UInt8) : Prop := 0x80 ≤ b.toNat ∧ b.toNat ≤ 0xBF

/-- `UTF8-char = UTF8-1 / UTF8-2 / UTF8-3 / UTF8-4`, one constructor per alternative. -/
inductive Utf8Char : Bytes → Prop
  /-- `UTF8-1 = %x00-7F` -/
  | one {a : UInt8} : a.toNat ≤ 0x7F → Utf8Char [a]
  /-- `UTF8-2 = %xC2-DF UTF8-tail` -/
  | two {a b : UInt8} : 0xC2 ≤ a.toNat → a.toNat ≤ 0xDF → Utf8Tail b → Utf8Char [a, b]
  /-- `UTF8-3 = %xE0 %xA0-BF UTF8-tail` -/
  | e0 {b c : UInt8} : 0xA0 ≤ b.toNat → b.toNat ≤ 0xBF → Utf8Tail c → Utf8Char [0xE0, b, c]
  /-- `/ %xE1-EC 2( UTF8-tail )` -/
  | e1ec {a b c : UInt8} : 0xE1 ≤ a.toNat → a.toNat ≤ 0xEC → Utf8Tail b → Utf8Tail c →
      Utf8Char [a, b, c]
  /-- `/ %xED %x80-9F UTF8-tail` -/
  | ed {b c : UInt8} : 0x80 ≤ b.toNat → b.toNat ≤ 0x9F → Utf8Tail c → Utf8Char [0xED, b, c]
  /-- `/ %xEE-EF 2( UTF8-tail )` -/
  | eeef {a b c : UInt8} : 0xEE ≤ a.toNat → a.toNat ≤ 0xEF → Utf8Tail b → Utf8Tail c →
      Utf8Char [a, b, c]
  /-- `UTF8-4 = %xF0 %x90-BF 2( UTF8-tail )` -/
  | f0 {b c d : UInt8} : 0x90 ≤ b.toNat → b.toNat ≤ 0xBF → Utf8Tail c → Utf8Tail d →
      Utf8Char [0xF0, b, c, d]
  /-- `/ %xF1-F3 3( UTF8-tail )` -/
  | f1f3 {a b c d : UInt8} : 0xF1 ≤ a.toNat → a.toNat ≤ 0xF3 → Utf8Tail b → Utf8Tail c →
      Utf8Tail d → Utf8Char [a, b, c, d]
  /-- `/ %xF4 %x80-8F 2( UTF8-tail )` -/
  | f4 {b c d : UInt8} : 0x80 ≤ b.toNat → b.toNat ≤ 0x8F → Utf8Tail c → Utf8Tail d →
      Utf8Char [0xF4, b, c, d]

/-- `UTF8-octets = *( UTF8-char )` -/
inductive Utf8 : Bytes → Prop
  /-- No character. -/
  | nil : Utf8 []
  /-- A character, then more. -/
  | cons {c rest : Bytes} : Utf8Char c → Utf8 rest → Utf8 (c ++ rest)

/-- UTF-8 texts one after the other are UTF-8. -/
theorem Utf8.append {s t : Bytes} (hs : Utf8 s) (ht : Utf8 t) : Utf8 (s ++ t) := by
  induction hs with
  | nil => exact ht
  | cons hc _ ih => rw [List.append_assoc]; exact .cons hc ih

/-- An ASCII byte before UTF-8 text. -/
theorem Utf8.ascii_cons {a : UInt8} {s : Bytes} (ha : a.toNat ≤ 0x7F) (h : Utf8 s) :
    Utf8 (a :: s) :=
  show Utf8 ([a] ++ s) from .cons (.one ha) h

/-- ASCII text is UTF-8, one `UTF8-1` per byte. -/
theorem utf8_of_ascii : ∀ {s : Bytes}, s.all (· < 0x80) → Utf8 s
  | [], _ => .nil
  | c :: s, h => by
    simp only [List.all_cons, Bool.and_eq_true, decide_eq_true_eq] at h
    exact .ascii_cons (Nat.le_of_lt_succ h.1) (utf8_of_ascii h.2)

/-- The byte `0xFF` stands in no UTF-8 text: no alternative of `UTF8-char` holds it. -/
theorem Utf8Char.ne_ff {c : Bytes} (h : Utf8Char c) : 0xFF ∉ c := by
  cases h <;> simp_all [Utf8Tail, UInt8.ext_iff] <;> omega

/-- Nor, therefore, in a UTF-8 text. -/
theorem Utf8.ne_ff {s : Bytes} (h : Utf8 s) : 0xFF ∉ s := by
  induction h with
  | nil => exact List.not_mem_nil _
  | cons hc _ ih => exact List.mem_append.not.mpr (not_or.mpr ⟨hc.ne_ff, ih⟩)

/-! ## `JsonEscape` keeps UTF-8 -/

/-- `JsonEscape` of an ASCII byte is ASCII. -/
theorem jsonEscapeByte_ascii {c : UInt8} (h : c.toNat ≤ 0x7F) : (jsonEscapeByte c).all (· < 0x80) := by
  unfold jsonEscapeByte
  split <;> first | rfl | simp only [List.all_cons, List.all_nil, Bool.and_true, decide_eq_true_eq]
  exact Nat.lt_succ_of_le h

/-- `JsonEscape` copies a byte from `0x80` up. -/
theorem jsonEscapeByte_of_high {c : UInt8} (h : 0x80 ≤ c.toNat) : jsonEscapeByte c = [c] := by
  unfold jsonEscapeByte
  split <;> first | rfl | exact absurd h (by decide)

/-- `JsonEscape` of two texts is the two escapes. -/
@[simp] theorem jsonEscape_append (s t : Bytes) : jsonEscape (s ++ t) = jsonEscape s ++ jsonEscape t :=
  List.flatMap_append _ _ _

/-- `JsonEscape` leaves a text of bytes from `0x80` up as it is. -/
theorem jsonEscape_of_high : ∀ {s : Bytes}, (∀ x ∈ s, 0x80 ≤ x.toNat) → jsonEscape s = s
  | [], _ => rfl
  | c :: s, h => by
    rw [List.forall_mem_cons] at h
    rw [jsonEscape_cons, jsonEscapeByte_of_high h.1, jsonEscape_of_high h.2, List.singleton_append]

/-- A character is one ASCII byte, or bytes from `0x80` up. -/
theorem Utf8Char.ascii_or_high {c : Bytes} (h : Utf8Char c) :
    (∃ a : UInt8, c = [a] ∧ a.toNat ≤ 0x7F) ∨ ∀ x ∈ c, 0x80 ≤ x.toNat := by
  cases h
  case one a ha => exact .inl ⟨a, rfl, ha⟩
  all_goals
    right
    simp only [List.forall_mem_cons, List.not_mem_nil, false_imp_iff, implies_true, and_true,
      Utf8Tail] at *
    first | omega | exact ⟨by decide, by omega⟩

/-- `JsonEscape` keeps a character UTF-8: it escapes an ASCII byte as ASCII and copies the bytes
of a longer character. -/
theorem Utf8Char.jsonEscape {c : Bytes} (h : Utf8Char c) : Utf8 (jsonEscape c) := by
  rcases h.ascii_or_high with ⟨a, rfl, ha⟩ | hc
  · rw [jsonEscape_cons, jsonEscape_nil, List.append_nil]
    exact utf8_of_ascii (jsonEscapeByte_ascii ha)
  · rw [jsonEscape_of_high hc, ← List.append_nil c]
    exact .cons h .nil

/-- **`JsonEscape` keeps UTF-8.** -/
theorem Utf8.jsonEscape {s : Bytes} (h : Utf8 s) : Utf8 (jsonEscape s) := by
  induction h with
  | nil => exact .nil
  | cons hc _ ih => rw [jsonEscape_append]; exact hc.jsonEscape.append ih

/-! ## The writer of objects keeps UTF-8 -/

/-- The strings that `JsonEscape` writes as the body of an RFC 8259 string: valid UTF-8, with no
control byte but tab, line feed and carriage return. -/
def JsonEscapable (v : Bytes) : Prop := v.all jsonSafe ∧ Utf8 v

/-- An ASCII string with no control byte but tab, line feed and carriage return. -/
theorem JsonEscapable.of_ascii {v : Bytes} (hs : v.all jsonSafe) (ha : v.all (· < 0x80)) :
    JsonEscapable v :=
  ⟨hs, utf8_of_ascii ha⟩

/-- A quoted string value of UTF-8 bytes is UTF-8. -/
theorem utf8_quoted {v : Bytes} (h : Utf8 v) : Utf8 (quoted v) :=
  .ascii_cons (by decide) (h.jsonEscape.append (.ascii_cons (by decide) .nil))

/-- One member on a UTF-8 key and value text is UTF-8. -/
theorem utf8_memberText {key text : Bytes} (hk : Utf8 key) (ht : Utf8 text) :
    Utf8 (memberText key text) :=
  .ascii_cons (by decide)
    (hk.jsonEscape.append (.ascii_cons (by decide) (.ascii_cons (by decide) ht)))

/-- The members after the first, on UTF-8 keys and value texts, are UTF-8. -/
theorem utf8_membersTail : ∀ {ms : List (Bytes × Bytes)}, (∀ m ∈ ms, Utf8 m.1 ∧ Utf8 m.2) →
    Utf8 (membersTail ms)
  | [], _ => .ascii_cons (by decide) .nil
  | m :: ms, h => by
    rw [List.forall_mem_cons] at h
    exact .ascii_cons (by decide) ((utf8_memberText h.1.1 h.1.2).append (utf8_membersTail h.2))

/-- **The object writer keeps UTF-8.** An object on UTF-8 keys and value texts is UTF-8. -/
theorem utf8_objectText {m : Bytes × Bytes} {ms : List (Bytes × Bytes)} (hm : Utf8 m.1 ∧ Utf8 m.2)
    (hms : ∀ n ∈ ms, Utf8 n.1 ∧ Utf8 n.2) : Utf8 (objectText m ms) :=
  .ascii_cons (by decide) ((utf8_memberText hm.1 hm.2).append (utf8_membersTail hms))

end CefHostBridge
