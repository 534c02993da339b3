import CefHostBridge.Codec.Escape

/-!
# JSON objects (RFC 8259 §2–§7)

The bridge writes its JSON bodies by hand, member by member. This module is the other side: a
reader of JSON texts at the level of bytes, for objects whose values are `null`, `true`, `false`,
integers and strings. It skips the white space of §2 between tokens, reads strings with
`jsonString`, and integers as §6 writes them: an optional minus sign, then `0` or a digit from
`1` to `9` and more digits. What it does not cover it rejects: nested objects and arrays, numbers
with a fraction or an exponent, and duplicate checks, which §4 leaves to the reader. The UTF-8
of §8.1 is not its business: `Codec/Utf8.lean` states it apart.

`objectText` writes an object as the bridge does, without white space, each member as the quoted
key, `:`, and the text of its value. `jsonText_objectText` reads such a text back, for keys whose
bytes are safe and value texts that read as their values when `,` or `}` follows (`Reads`).
-/

namespace CefHostBridge

/-- A JSON value of the kinds that the bridge's answers hold. -/
inductive JsonValue
  | null
  | bool (b : Bool)
  | num (n : Int)
  | str (s : Bytes)
  deriving DecidableEq

/-- JSON's insignificant white space: space, tab, line feed and carriage return. -/
def isJsonWs (c : UInt8) : Bool := c = 32 || c = 9 || c = 10 || c = 13

/-- The text after the white space at its start. -/
def skipWs (s : Bytes) : Bytes := s.dropWhile isJsonWs

/-- The digits of a non-negative integer of §6, with the text after them: `0` or digits that do
not start with `0`; `none` for anything else and for a number that goes on with a fraction or an
exponent. -/
def jsonNat (s : Bytes) : Option (Nat × Bytes) :=
  let ds := s.takeWhile (isDigitIn 10)
  let rest := s.dropWhile (isDigitIn 10)
  if ds = [] ∨ (ds.head? = some 48 ∧ 1 < ds.length) ∨
      rest.head? = some 46 ∨ rest.head? = some 101 ∨ rest.head? = some 69 then none
  else some (digitsValue 10 ds, rest)

/-- An integer of §6, with the text after it: an optional `-`, then `jsonNat`. -/
def jsonInt (s : Bytes) : Option (Int × Bytes) :=
  if s.head? = some 45 then (jsonNat s.tail).map fun p => (-(p.1 : Int), p.2)
  else (jsonNat s).map fun p => (p.1, p.2)

/-- A value at the start of the text, with the text after it. -/
def jsonValue (s : Bytes) : Option (JsonValue × Bytes) :=
  match s with
  | [] => none
  | c :: r =>
    if c = 34 then (jsonString r).map fun p => (.str p.1, p.2)
    else if (lit "true").isPrefixOf s then some (.bool true, s.drop 4)
    else if (lit "false").isPrefixOf s then some (.bool false, s.drop 5)
    else if (lit "null").isPrefixOf s then some (.null, s.drop 4)
    else (jsonInt s).map fun p => (.num p.1, p.2)

/-- The members of an object after its `{`, up to and including its `}`: at most `fuel` of them. -/
def jsonMembers : Nat → Bytes → Option (List (Bytes × JsonValue) × Bytes)
  | 0, _ => none
  | fuel + 1, s =>
    match skipWs s with
    | 34 :: r =>
      match jsonString r with
      | none => none
      | some (key, r) =>
        match skipWs r with
        | 58 :: r =>
          match jsonValue (skipWs r) with
          | none => none
          | some (v, r) =>
            match skipWs r with
            | 44 :: r => (jsonMembers fuel r).map fun p => ((key, v) :: p.1, p.2)
            | 125 :: r => some ([(key, v)], r)
            | _ => none
        | _ => none
    | _ => none

/-- An object at the start of the text, with the text after it. A member takes at least one byte,
so the length of the text bounds the number of members. -/
def jsonObject (s : Bytes) : Option (List (Bytes × JsonValue) × Bytes) :=
  match skipWs s with
  | 123 :: r =>
    match skipWs r with
    | 125 :: r' => some ([], r')
    | _ => jsonMembers r.length r
  | _ => none

/-- A JSON text that is one object: its members, in order. -/
def jsonText (s : Bytes) : Option (List (Bytes × JsonValue)) :=
  match jsonObject s with
  | some (ms, rest) => if skipWs rest = [] then some ms else none
  | none => none

/-! ## Writing an object as the bridge does -/

/-- One member as the bridge writes it: `"`, the escaped key, `"`, `:` and the text of the value. -/
def memberText (key text : Bytes) : Bytes := 34 :: jsonEscape key ++ 34 :: 58 :: text

/-- The members after the first, each after a `,`, then `}`. -/
def membersTail : List (Bytes × Bytes) → Bytes
  | [] => [125]
  | m :: ms => 44 :: memberText m.1 m.2 ++ membersTail ms

/-- An object as the bridge writes it, with at least one member: `{`, the members separated by
`,`, and `}`, without white space. -/
def objectText (m : Bytes × Bytes) (ms : List (Bytes × Bytes)) : Bytes :=
  123 :: memberText m.1 m.2 ++ membersTail ms

/-- A value text reads as `v` when `,` or `}` follows it. -/
def Reads (text : Bytes) (v : JsonValue) : Prop :=
  ∀ c rest, (c = 44 ∨ c = 125) → jsonValue (skipWs (text ++ c :: rest)) = some (v, c :: rest)

/-- A string value as the bridge writes it: `"`, the escaped bytes, `"`. -/
def quoted (v : Bytes) : Bytes := 34 :: jsonEscape v ++ [34]

/-- A byte that starts a token is no white space. -/
theorem skipWs_cons {c : UInt8} (h : isJsonWs c = false) (r : Bytes) : skipWs (c :: r) = c :: r := by
  simp [skipWs, List.dropWhile_cons, h]

/-! ## Values read back -/

/-- `true` reads as itself. -/
theorem reads_true : Reads (lit "true") (.bool true) := fun _ _ _ => rfl

/-- `false` reads as itself. -/
theorem reads_false : Reads (lit "false") (.bool false) := fun _ _ _ => rfl

/-- A quoted string of safe bytes reads as those bytes. -/
theorem reads_quoted {v : Bytes} (h : v.all jsonSafe) : Reads (quoted v) (.str v) := by
  intro c rest _
  simp only [quoted, List.cons_append, List.append_assoc, List.singleton_append]
  rw [skipWs_cons (c := 34) rfl]
  simp only [jsonValue, if_pos, jsonString_escape_append, if_pos h, Option.map_some', List.nil_append]

/-- A decimal digit starts no other token: it is no white space, no quote, no minus sign and no
first letter of `true`, `false` or `null`. -/
theorem decimalDigit_token {d : UInt8} (h : isDigitIn 10 d = true) :
    isJsonWs d = false ∧ d ≠ 34 ∧ d ≠ 45 ∧ d ≠ 116 ∧ d ≠ 102 ∧ d ≠ 110 := by
  have hr := decimalDigit_range h
  simp only [isJsonWs, Ne, byte_eq_iff]
  simp
  omega

/-- A text that starts with another byte does not start with `a :: as`. -/
theorem isPrefixOf_cons_of_ne {a d : UInt8} (as r : Bytes) (h : d ≠ a) :
    (a :: as).isPrefixOf (d :: r) = false := by
  simp [List.isPrefixOf_cons₂, Ne.symm h]

/-- **Integers read back.** Decimal digits that do not start with `0`, or `0` alone, read as the
number they denote. -/
theorem reads_digits {ds : Bytes} (hne : ds ≠ []) (hd : ∀ x ∈ ds, isDigitIn 10 x = true)
    (hz : ds.head? = some 48 → ds = [48]) : Reads ds (.num (digitsValue 10 ds)) := by
  intro c rest hc
  obtain ⟨d, ds', rfl⟩ := List.exists_cons_of_ne_nil hne
  obtain ⟨hws, h34, h45, ht, hf, hn⟩ := decimalDigit_token (hd d (List.mem_cons_self _ _))
  have hcd : ¬isDigitIn 10 c = true := by rcases hc with rfl | rfl <;> decide
  have htake : (d :: ds' ++ c :: rest).takeWhile (isDigitIn 10) = d :: ds' := by
    rw [List.takeWhile_append_of_pos hd, List.takeWhile_cons_of_neg hcd, List.append_nil]
  have hdrop : (d :: ds' ++ c :: rest).dropWhile (isDigitIn 10) = c :: rest := by
    rw [List.dropWhile_append_of_pos hd, List.dropWhile_cons_of_neg hcd]
  have hzero : d = 48 → ds' = [] := fun h => (List.cons_eq_cons.mp (hz (by simp [h]))).2
  have hnum : ¬(c = 46 ∨ c = 101 ∨ c = 69) := by rcases hc with rfl | rfl <;> decide
  rw [List.cons_append, skipWs_cons hws]
  simp only [jsonValue, if_neg h34]
  rw [show lit "true" = 116 :: lit "rue" from rfl, show lit "false" = 102 :: lit "alse" from rfl,
    show lit "null" = 110 :: lit "ull" from rfl, isPrefixOf_cons_of_ne _ _ ht,
    isPrefixOf_cons_of_ne _ _ hf, isPrefixOf_cons_of_ne _ _ hn]
  simp only [Bool.false_eq_true, if_false, jsonInt, List.head?_cons, Option.some.injEq, if_neg h45]
  rw [← List.cons_append, jsonNat, htake, hdrop, if_neg (by simpa [hnum] using hzero)]
  rfl

/-- One member, then what follows it. -/
theorem jsonMembers_member (fuel : Nat) {key text rest : Bytes} {v : JsonValue} {c : UInt8}
    (hk : key.all jsonSafe) (hv : jsonValue (skipWs (text ++ c :: rest)) = some (v, c :: rest)) :
    jsonMembers (fuel + 1) (memberText key text ++ c :: rest) =
      match skipWs (c :: rest) with
      | 44 :: r => (jsonMembers fuel r).map fun p => ((key, v) :: p.1, p.2)
      | 125 :: r => some ([(key, v)], r)
      | _ => none := by
  have hkey : jsonString (jsonEscape key ++ 34 :: 58 :: (text ++ c :: rest)) =
      some (key, 58 :: (text ++ c :: rest)) := by
    rw [jsonString_escape_append, if_pos hk]
  simp only [memberText, List.cons_append, List.append_assoc, jsonMembers, skipWs_cons (c := 34) rfl,
    hkey, skipWs_cons (c := 58) rfl, hv]

/-- The members after the first, read back with enough fuel. -/
theorem jsonMembers_membersTail :
    ∀ (ms : List (Bytes × Bytes × JsonValue)) (fuel : Nat) (key text : Bytes) (v : JsonValue)
      (rest : Bytes), ms.length < fuel → key.all jsonSafe → Reads text v →
      (∀ m ∈ ms, m.1.all jsonSafe ∧ Reads m.2.1 m.2.2) →
      jsonMembers fuel (memberText key text ++ membersTail (ms.map fun m => (m.1, m.2.1)) ++ rest) =
        some ((key, v) :: ms.map (fun m => (m.1, m.2.2)), rest)
  | [], fuel + 1, key, text, v, rest, _, hk, hv, _ => by
    rw [List.map_nil, membersTail, List.append_assoc, List.singleton_append,
      jsonMembers_member fuel hk (hv 125 rest (.inr rfl)), skipWs_cons (c := 125) rfl]
    rfl
  | m :: ms, fuel + 1, key, text, v, rest, hlen, hk, hv, hms => by
    obtain ⟨hmk, hmv⟩ := hms m (List.mem_cons_self _ _)
    simp only [List.map_cons, membersTail, List.append_assoc, List.cons_append]
    rw [jsonMembers_member fuel hk (hv 44 _ (.inl rfl)), skipWs_cons (c := 44) rfl]
    show Option.map _ (jsonMembers fuel (memberText m.1 m.2.1 ++ (membersTail _ ++ rest))) = _
    rw [← List.append_assoc, jsonMembers_membersTail ms fuel m.1 m.2.1 m.2.2 rest (by simpa using hlen) hmk hmv
      (fun m' h => hms m' (List.mem_cons_of_mem _ h))]
    rfl

/-- A member's text takes at least one byte. -/
theorem length_le_objectText (m : Bytes × Bytes) :
    ∀ ms : List (Bytes × Bytes), ms.length < (memberText m.1 m.2 ++ membersTail ms).length
  | [] => by simp [memberText]
  | m' :: ms => by
    have := length_le_objectText m' ms
    simp only [membersTail, List.length_append, List.length_cons, memberText] at this ⊢
    omega

/-- **Objects read back.** An object written as the bridge writes it, with safe keys and value
texts that read as their values, is a JSON text whose members are those keys and values. -/
theorem jsonText_objectText (key text : Bytes) (v : JsonValue) (ms : List (Bytes × Bytes × JsonValue))
    (hk : key.all jsonSafe) (hv : Reads text v) (hms : ∀ m ∈ ms, m.1.all jsonSafe ∧ Reads m.2.1 m.2.2) :
    jsonText (objectText (key, text) (ms.map fun m => (m.1, m.2.1))) =
      some ((key, v) :: ms.map fun m => (m.1, m.2.2)) := by
  have hlen := length_le_objectText (key, text) (ms.map fun m => (m.1, m.2.1))
  rw [List.length_map] at hlen
  have hread := jsonMembers_membersTail ms _ key text v [] hlen hk hv hms
  rw [List.append_nil] at hread
  have hobj : jsonObject (objectText (key, text) (ms.map fun m => (m.1, m.2.1))) =
      jsonMembers (memberText (key, text).1 (key, text).2 ++ membersTail (ms.map fun m => (m.1, m.2.1))).length
        (memberText key text ++ membersTail (ms.map fun m => (m.1, m.2.1))) := rfl
  rw [jsonText, hobj, hread]
  rfl

end CefHostBridge
