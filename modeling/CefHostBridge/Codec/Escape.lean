import CefHostBridge.Cpp.Stream

/-!
# `JsonEscape`, `JsSingleQuoteEscape` and JSON string literals

The bridge builds its JSON bodies by hand: every string member is `"` followed by `JsonEscape` of
the value and `"`. `JsonEscape` rewrites `\`, `"`, line feed, carriage return and tab as
two-character escapes and copies every other byte. `JsSingleQuoteEscape` does the same for
`BuildInputScript`'s single-quoted literals, with `'` in place of `"` and no case for tab.

Against that stands `jsonString`, a reader of RFC 8259 §7 string literals at the level of bytes:
unescaped bytes must be at least `0x20` and neither `"` nor `\`, and a `\` must begin one of the
escapes `\" \\ \/ \b \f \n \r \t \uXXXX`, a high and a low surrogate escape decoding together to
one UTF-8 character. `jsonString_escape_append` shows that the quoted escape of `s` is such a
literal exactly when every control byte of `s` is a tab, a line feed or a carriage return, and
that it then decodes to `s`; the byte `0x01` is the first for which it is not. The reader checks
no UTF-8: RFC 8259 §8.1 asks it of the whole text, and `Codec/Utf8.lean` states it apart.
-/

namespace CefHostBridge

/-- One case of `JsonEscape`'s switch. -/
def jsonEscapeByte : UInt8 → Bytes
  | 92 => [92, 92]
  | 34 => [92, 34]
  | 10 => [92, 110]
  | 13 => [92, 114]
  | 9 => [92, 116]
  | c => [c]

/-- `JsonEscape`. -/
def jsonEscape (s : Bytes) : Bytes := s.flatMap jsonEscapeByte

@[simp] theorem jsonEscape_nil : jsonEscape [] = [] := rfl

@[simp] theorem jsonEscape_cons (c : UInt8) (s : Bytes) :
    jsonEscape (c :: s) = jsonEscapeByte c ++ jsonEscape s := List.flatMap_cons _ _ _

/-- One case of `JsSingleQuoteEscape`'s switch. -/
def jsSingleQuoteEscapeByte : UInt8 → Bytes
  | 92 => [92, 92]
  | 39 => [92, 39]
  | 10 => [92, 110]
  | 13 => [92, 114]
  | c => [c]

/-- `JsSingleQuoteEscape`. -/
def jsSingleQuoteEscape (s : Bytes) : Bytes := s.flatMap jsSingleQuoteEscapeByte

/-! ## JSON string literals (RFC 8259 §7) -/

/-- The UTF-8 encoding of a code point below `0x110000`. -/
def utf8Encode (cp : Nat) : Bytes :=
  if cp < 0x80 then [UInt8.ofNat cp]
  else if cp < 0x800 then [UInt8.ofNat (0xC0 + cp / 64), UInt8.ofNat (0x80 + cp % 64)]
  else if cp < 0x10000 then
    [UInt8.ofNat (0xE0 + cp / 4096), UInt8.ofNat (0x80 + cp / 64 % 64), UInt8.ofNat (0x80 + cp % 64)]
  else
    [UInt8.ofNat (0xF0 + cp / 262144), UInt8.ofNat (0x80 + cp / 4096 % 64),
      UInt8.ofNat (0x80 + cp / 64 % 64), UInt8.ofNat (0x80 + cp % 64)]

/-- The code unit that the four hexadecimal digits of a `\u` escape denote. -/
def hex4 (l : Bytes) : Option Nat :=
  if l.length = 4 ∧ l.all (isDigitIn 16) then some (digitsValue 16 l) else none

/-- The byte that a two-character escape `\e` denotes, for `e` other than `u`. -/
def simpleEscape : UInt8 → Option UInt8
  | 34 => some 34
  | 92 => some 92
  | 47 => some 47
  | 98 => some 8
  | 102 => some 12
  | 110 => some 10
  | 114 => some 13
  | 116 => some 9
  | _ => none

/-- Whether `u` and `l` are a high and a low surrogate, which two `\u` escapes write together. -/
def isSurrogatePair (u : Nat) : Option Nat → Bool
  | some l => 0xD800 ≤ u && u < 0xDC00 && 0xDC00 ≤ l && l < 0xE000
  | none => false

/-- One character of the body of a JSON string: the closing quote and the text after it, or what
one unescaped byte or one escape denotes and the text after it, or neither. -/
inductive JsonChar
  | close (rest : Bytes)
  | char (value rest : Bytes)
  | bad

/-- The character that a `\u` escape begins, given the text after `\u`: a surrogate pair when a
second `\u` escape completes it, and otherwise the one code unit. -/
def unicodeEscape (r : Bytes) : JsonChar :=
  match hex4 (r.take 4) with
  | none => .bad
  | some u =>
    let r := r.drop 4
    let l := hex4 ((r.drop 2).take 4)
    if r.take 2 = [92, 117] ∧ isSurrogatePair u l then
      .char (utf8Encode (0x10000 + (u - 0xD800) * 0x400 + (l.getD 0 - 0xDC00))) (r.drop 6)
    else .char (utf8Encode u) r

/-- The first character of the body of a JSON string, read byte by byte: an unescaped byte from
`0x20` up stands for itself, whether or not it belongs to a UTF-8 sequence (`Utf8` says that). -/
def jsonChar : Bytes → JsonChar
  | [] => .bad
  | c :: rest =>
    if c = 34 then .close rest
    else if c = 92 then
      match rest with
      | [] => .bad
      | e :: r =>
        if e = 117 then unicodeEscape r else
          match simpleEscape e with
          | some v => .char [v] r
          | none => .bad
    else if c.toNat < 0x20 then .bad else .char [c] rest

/-- A `\u` escape takes the four digits after `\u`, and six more for a surrogate pair. -/
theorem unicodeEscape_shorter {r v rest : Bytes} (h : unicodeEscape r = .char v rest) :
    rest.length ≤ r.length := by
  simp only [unicodeEscape] at h
  split at h
  · cases h
  · split_ifs at h <;> obtain ⟨-, rfl⟩ := JsonChar.char.inj h <;> simp only [List.length_drop] <;>
      omega

/-- A character takes at least one byte. -/
theorem jsonChar_shorter {s v rest : Bytes} (h : jsonChar s = .char v rest) :
    rest.length < s.length := by
  match s, h with
  | c :: t, h =>
    simp only [jsonChar] at h
    split_ifs at h with h34 h92 h20
    · split at h
      · cases h
      · rename_i e r
        split_ifs at h with hu
        · have := unicodeEscape_shorter h
          simp only [List.length_cons]
          omega
        · split at h <;> cases h
          simp only [List.length_cons]
          omega
    · cases h
      simp

/-- The bytes of a JSON string after its opening quote, up to and including the closing quote:
the value they decode to and the text after the literal, or `none` when they are not a string. -/
def jsonString (s : Bytes) : Option (Bytes × Bytes) :=
  match _h : jsonChar s with
  | .close rest => some ([], rest)
  | .char v rest => (jsonString rest).map fun r => (v ++ r.1, r.2)
  | .bad => none
termination_by s.length
decreasing_by exact jsonChar_shorter _h

/-- `jsonString` reads one character and goes on after it. -/
theorem jsonString_eq (s : Bytes) :
    jsonString s = match jsonChar s with
      | .close rest => some ([], rest)
      | .char v rest => (jsonString rest).map fun r => (v ++ r.1, r.2)
      | .bad => none := by
  rw [jsonString]
  split <;> simp_all

/-! ## `JsonEscape` against the reader -/

/-- The bytes that may stand in a JSON string after `JsonEscape`: every byte from `0x20` up, and
the three control bytes that it escapes. -/
def jsonSafe (c : UInt8) : Bool := 0x20 ≤ c.toNat || c = 9 || c = 10 || c = 13

/-- The escape of one byte is one character of a JSON string, denoting that byte, exactly when
the byte is safe. -/
theorem jsonChar_escapeByte (c : UInt8) (rest : Bytes) :
    jsonChar (jsonEscapeByte c ++ rest) = if jsonSafe c then .char [c] rest else .bad := by
  unfold jsonEscapeByte
  split
  · rfl
  · rfl
  · rfl
  · rfl
  · rfl
  · rename_i h92 h34 h10 h13 h9
    simp only [imp_false] at h92 h34 h10 h13 h9
    have hc : (jsonSafe c = true) ↔ ¬c.toNat < 32 := by simp [jsonSafe, h9, h10, h13]
    by_cases h : c.toNat < 32 <;> simp [jsonChar, h92, h34, h, hc]

/-- **The reader on a quoted escape.** `JsonEscape s`, then `"`, is the body of a JSON string
exactly when every byte of `s` is safe, and its value is then `s`. -/
theorem jsonString_escape_append (s rest : Bytes) :
    jsonString (jsonEscape s ++ 34 :: rest) = if s.all jsonSafe then some (s, rest) else none := by
  induction s with
  | nil => rw [jsonString_eq]; rfl
  | cons c s ih =>
    rw [jsonEscape_cons, List.append_assoc, jsonString_eq, jsonChar_escapeByte]
    by_cases hc : jsonSafe c <;> simp [hc, ih]

/-- A control byte other than tab, line feed and carriage return, here `0x01`, is copied by
`JsonEscape` and leaves the quoted result no JSON string. -/
example : jsonString (jsonEscape [1] ++ [34]) = none :=
  jsonString_escape_append [1] []

end CefHostBridge
