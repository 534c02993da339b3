import CefHostBridge.Http.Serve

/-!
# The scripts of `/input` against ECMAScript's lexical grammar

`BuildInputScript` puts the `text` or `key` parameter into a fixed script template, between single
quotes, after `JsSingleQuoteEscape`. Against it stands a reader of ECMAScript's single-quoted
string literals (ECMA-262 §12.8.4, where since ES2019 only line feed and carriage return are
forbidden raw), and a lexer for the part of the lexical grammar that the templates use:
white space and line terminators, ASCII `IdentifierName`s, punctuators by longest match, and
single-quoted string literals. Both work on the bytes of the script. A byte of `0x80` or above is
an ordinary source character: UTF-8 never encodes an ASCII character with such bytes.

The lexer rejects what it does not cover (numbers, `/` with its comments and regular expressions,
template literals, `"`, escapes in identifiers, the HTML-like comments of Annex B, non-ASCII outside
literals, and in literals the escapes `\x`, `\u`, the digit escapes and line continuations), so
that where it gives tokens they are the tokens of ECMAScript.

`jsSingleString_escape` is the law of the escape: the escape of any `u`, then a quote, is the body
of one literal whose value is `u`, ending at that quote. With it and the lexer's steps over the
template's constant pieces, `buildInputScript_tokens` shows that for every parameter value the
script's tokens are those of the template around one string token whose value is the parameter.
-/

namespace CefHostBridge

/-! ## String literals -/

/-- The value of the character after a backslash in a string literal: the `SingleEscapeCharacter`s
`' " \ b f n r t v`, and an ASCII `NonEscapeCharacter` for itself. The digits, `x`, `u`, line
terminators and non-ASCII bytes are left out. -/
def jsEscapeValue (e : UInt8) : Option UInt8 :=
  if e = 98 then some 8
  else if e = 102 then some 12
  else if e = 110 then some 10
  else if e = 114 then some 13
  else if e = 116 then some 9
  else if e = 118 then some 11
  else if (48 ≤ e ∧ e ≤ 57) ∨ e = 120 ∨ e = 117 ∨ e = 10 ∨ e = 13 ∨ 128 ≤ e then none
  else some e

/-- The body of a single-quoted string literal, read byte by byte, where `esc` says whether the
byte before was an escaping backslash: the literal's value and the text after its closing quote, or
`none` when the text is no such body. -/
def jsStringBody : Bool → Bytes → Option (Bytes × Bytes)
  | _, [] => none
  | true, e :: rest =>
    (jsEscapeValue e).bind fun v => (jsStringBody false rest).map fun r => (v :: r.1, r.2)
  | false, c :: rest =>
    if c = 39 then some ([], rest)
    else if c = 92 then jsStringBody true rest
    else if c = 10 ∨ c = 13 then none
    else (jsStringBody false rest).map fun r => (c :: r.1, r.2)

/-- A single-quoted string literal after its opening quote. -/
def jsSingleString (s : Bytes) : Option (Bytes × Bytes) := jsStringBody false s

/-- A byte that `JsSingleQuoteEscape` copies is read as itself. -/
theorem jsSingleString_raw {c : UInt8} (h39 : c ≠ 39) (h92 : c ≠ 92) (h10 : c ≠ 10) (h13 : c ≠ 13)
    (rest : Bytes) :
    jsSingleString (c :: rest) = (jsSingleString rest).map fun r => (c :: r.1, r.2) :=
  (if_neg h39).trans ((if_neg h92).trans (if_neg (not_or.mpr ⟨h10, h13⟩)))

/-- Each case of `JsSingleQuoteEscape`'s switch is read back as its byte. -/
theorem jsSingleString_escapeByte (c : UInt8) (rest : Bytes) :
    jsSingleString (jsSingleQuoteEscapeByte c ++ rest) =
      (jsSingleString rest).map fun r => (c :: r.1, r.2) := by
  unfold jsSingleQuoteEscapeByte
  split
  case h_5 h92 h39 h10 h13 => exact jsSingleString_raw h39 h92 h10 h13 rest
  -- the escapes of a backslash, a quote, a line feed and a carriage return read back by evaluation
  all_goals rfl

/-- A byte put in front of a literal's value leaves the text after the literal as it is. -/
theorem map_cons_value_eq_some {o : Option (Bytes × Bytes)} {c : UInt8} {v rest : Bytes}
    (h : o.map (fun r => (c :: r.1, r.2)) = some (v, rest)) : ∃ v', o = some (v', rest) := by
  obtain ⟨⟨v', rest'⟩, hp, he⟩ := Option.map_eq_some'.mp h
  cases he
  exact ⟨v', hp⟩

/-- A literal takes at least its closing quote. -/
theorem jsStringBody_length {esc : Bool} {s v rest : Bytes} (h : jsStringBody esc s = some (v, rest)) :
    rest.length < s.length := by
  induction esc, s using jsStringBody.induct generalizing v rest with
  | case1 => cases ‹Bool› <;> cases h
  | case2 e r ih =>
    obtain ⟨_, -, hw⟩ := Option.bind_eq_some.mp h
    obtain ⟨_, hp⟩ := map_cons_value_eq_some hw
    exact Nat.lt_succ_of_lt (ih hp)
  | case3 r =>
    obtain ⟨-, rfl⟩ := Prod.mk.inj (Option.some.inj h)
    exact Nat.lt_succ_self _
  | case4 r _ ih => exact Nat.lt_succ_of_lt (ih h)
  | case5 c r h39 h92 hnl =>
    rw [jsStringBody, if_neg h39, if_neg h92, if_pos hnl] at h
    cases h
  | case6 c r h39 h92 h1013 ih =>
    rw [jsStringBody, if_neg h39, if_neg h92, if_neg h1013] at h
    obtain ⟨_, hp⟩ := map_cons_value_eq_some h
    exact Nat.lt_succ_of_lt (ih hp)

/-- **The escape law.** For every `u`, `JsSingleQuoteEscape u` followed by a quote is the body of
one single-quoted literal, which ends at that quote and whose value is `u`. -/
theorem jsSingleString_escape (u rest : Bytes) :
    jsSingleString (jsSingleQuoteEscape u ++ 39 :: rest) = some (u, rest) := by
  induction u with
  | nil => rfl
  | cons c u ih =>
    rw [jsSingleQuoteEscape, List.flatMap_cons, List.append_assoc, ← jsSingleQuoteEscape,
      jsSingleString_escapeByte, ih]
    rfl

/-! ## Tokens -/

/-- A token of the scripts: an `IdentifierName` (reserved words included), a punctuator, or a
string literal, by its value. -/
inductive JsToken
  | ident (name : Bytes)
  | punct (p : Bytes)
  | str (value : Bytes)
  deriving DecidableEq

/-- White space and line terminators of ASCII: tab, line feed, vertical tab, form feed, carriage
return and space. -/
def isJsSpace (c : UInt8) : Bool := c = 9 || c = 10 || c = 11 || c = 12 || c = 13 || c = 32

/-- An ASCII `IdentifierStart`: a letter, `$` or `_`. -/
def isIdStart (c : UInt8) : Bool :=
  (65 ≤ c && c ≤ 90) || (97 ≤ c && c ≤ 122) || c = 36 || c = 95

/-- An ASCII `IdentifierPart`: an `IdentifierStart` or a digit. -/
def isIdPart (c : UInt8) : Bool := isIdStart c || (48 ≤ c && c ≤ 57)

/-- ECMAScript's punctuators (§12.7) but the `DivPunctuator`s `/` and `/=`. -/
def punctuators : List Bytes :=
  ["\x7b", "(", ")", "[", "]", ".", "...", ";", ",", "<", ">", "<=", ">=", "==", "!=", "===", "!==",
    "+", "-", "*", "%", "**", "++", "--", "<<", ">>", ">>>", "&", "|", "^", "!", "~", "&&", "||",
    "??", "?", "?.", ":", "=", "+=", "-=", "*=", "%=", "**=", "<<=", ">>=", ">>>=", "&=", "|=",
    "^=", "&&=", "||=", "??=", "=>", "\x7d"].map lit

/-- The length of the longest punctuator that `s` starts with, `0` for none. -/
def punctLen (s : Bytes) : Nat :=
  (punctuators.filter (·.isPrefixOf s)).foldl (fun n p => max n p.length) 0

/-- The outcome of reading one token. -/
inductive Lexed
  | done
  | token (t : JsToken) (rest : Bytes)
  | error

/-- The next token of `s` after white space, by the longest match, or the end, or an error where
`s` leaves the part of the grammar that the lexer covers. -/
def nextToken : Bytes → Lexed
  | [] => .done
  | c :: r =>
    if isJsSpace c then nextToken r
    else if c = 39 then
      match jsSingleString r with
      | some (v, rest) => .token (.str v) rest
      | none => .error
    else if isIdStart c then .token (.ident (c :: r.takeWhile isIdPart)) (r.dropWhile isIdPart)
    else if (lit "<!--").isPrefixOf (c :: r) || (lit "-->").isPrefixOf (c :: r) then .error
    else
      match punctLen (c :: r) with
      | 0 => .error
      | n + 1 => .token (.punct ((c :: r).take (n + 1))) ((c :: r).drop (n + 1))

/-- A token takes at least one byte. -/
theorem nextToken_length : ∀ {s : Bytes} {t : JsToken} {rest : Bytes},
    nextToken s = .token t rest → rest.length < s.length
  | [], _, _, h => by cases h
  | c :: r, t, rest, h => by
    unfold nextToken at h
    split_ifs at h
    · exact Nat.lt_succ_of_lt (nextToken_length h)
    · split at h
      · cases h
        exact Nat.lt_succ_of_lt (jsStringBody_length ‹_›)
      · cases h
    · cases h
      exact Nat.lt_succ_of_le (List.dropWhile_suffix _).length_le
    · split at h
      · cases h
      · cases h
        simp only [List.length_drop, List.length_cons]
        omega

/-- A quote begins a string literal. -/
theorem nextToken_quote (r : Bytes) :
    nextToken (39 :: r) = match jsSingleString r with
      | some (v, rest) => .token (.str v) rest
      | none => .error :=
  rfl

/-- The tokens of `s`, with `fuel` steps at most and the tokens so far reversed in `acc`. -/
def jsTokensAux : Nat → List JsToken → Bytes → Option (List JsToken)
  | 0, _, _ => none
  | n + 1, acc, s =>
    match nextToken s with
    | .done => some acc.reverse
    | .token t rest => jsTokensAux n (t :: acc) rest
    | .error => none

/-- The tokens of a script, or `none` when it leaves the lexer's part of the grammar. Every token
takes a byte, so `s.length + 1` steps are enough (`jsTokensAux_fuel`). -/
def jsTokens (s : Bytes) : Option (List JsToken) := jsTokensAux (s.length + 1) [] s

/-- Fuel past the length of the text changes nothing: `jsTokens` runs the lexer to its end. -/
theorem jsTokensAux_fuel : ∀ (n m : Nat) (acc : List JsToken) (s : Bytes),
    s.length < n → s.length < m → jsTokensAux n acc s = jsTokensAux m acc s
  | 0, _, _, _, h, _ => absurd h (Nat.not_lt_zero _)
  | _ + 1, 0, _, _, _, h => absurd h (Nat.not_lt_zero _)
  | n + 1, m + 1, acc, s, hn, hm => by
    simp only [jsTokensAux]
    split
    · rfl
    · rename_i t rest ht
      have := nextToken_length ht
      exact jsTokensAux_fuel n m _ _ (by omega) (by omega)
    · rfl

/-- The tokens before are put in front of the rest. -/
theorem jsTokensAux_acc : ∀ (n : Nat) (acc : List JsToken) (s : Bytes),
    jsTokensAux n acc s = (jsTokensAux n [] s).map (acc.reverse ++ ·)
  | 0, _, _ => rfl
  | n + 1, acc, s => by
    simp only [jsTokensAux]
    split
    · simp
    · rw [jsTokensAux_acc n (_ :: acc), jsTokensAux_acc n [_], Option.map_map]
      simp [Function.comp_def]
    · rfl

/-- An escaped literal is one string token. -/
theorem jsTokensAux_literal (n : Nat) (acc : List JsToken) (u w : Bytes) :
    jsTokensAux (n + 1) acc (39 :: (jsSingleQuoteEscape u ++ 39 :: w)) =
      jsTokensAux n (.str u :: acc) w := by
  rw [jsTokensAux, nextToken_quote, jsSingleString_escape]

/-- **A template around one literal.** A script made of a head, a quote, the escape of `u`, a quote
and a tail lexes as the head's tokens `pre`, one string token of value `u`, and the tail's tokens,
when the lexer reads the head in `k` steps up to the opening quote, whatever follows it. -/
theorem jsTokens_template {head tail : Bytes} {k : Nat} {pre : List JsToken} (hk : k ≤ head.length)
    (hhead : ∀ n w, jsTokensAux (n + k) [] (head ++ 39 :: w) = jsTokensAux n pre.reverse (39 :: w))
    (u : Bytes) :
    jsTokens (head ++ 39 :: jsSingleQuoteEscape u ++ 39 :: tail) =
      (jsTokens tail).map fun post => pre ++ .str u :: post := by
  have hlen : (head ++ 39 :: jsSingleQuoteEscape u ++ 39 :: tail).length + 1 =
      ((jsSingleQuoteEscape u).length + tail.length + 2 + (head.length - k)) + 1 + k := by
    simp only [List.length_append, List.length_cons]
    omega
  rw [jsTokens, hlen, List.append_assoc, List.cons_append, hhead, jsTokensAux_literal,
    jsTokensAux_acc, jsTokensAux_fuel _ (tail.length + 1) _ _ (by omega) (by omega), ← jsTokens]
  simp

/-! ## The two templates -/

/-- The `text` script up to the opening quote of its literal. -/
def textScriptHead : Bytes := lit "(()=>\x7bconst t="

/-- The `text` script after the closing quote of its literal. -/
def textScriptTail : Bytes :=
  lit ";const el=document.activeElement;if(el&&(\x27value\x27 in el))\x7bel.value+=t;el.dispatchEvent(new Event(\x27input\x27,\x7bbubbles:true\x7d));\x7delse\x7bdocument.body.append(t);\x7d\x7d)();"

/-- The `key` script up to the opening quote of its literal. -/
def keyScriptHead : Bytes := lit "(()=>\x7bconst k="

/-- The `key` script after the closing quote of its literal. -/
def keyScriptTail : Bytes :=
  lit ";document.dispatchEvent(new KeyboardEvent(\x27keydown\x27,\x7bkey:k,bubbles:true\x7d));document.dispatchEvent(new KeyboardEvent(\x27keyup\x27,\x7bkey:k,bubbles:true\x7d));\x7d)();"

/-- The `text` script is its template around the escaped `text` parameter. -/
theorem buildInputScript_of_text {req : HttpRequest}
    (h : toLowerAscii (getParam req (lit "type")) = lit "text") :
    buildInputScript req =
      textScriptHead ++ 39 :: jsSingleQuoteEscape (getParam req (lit "text")) ++ 39 :: textScriptTail := by
  rw [buildInputScript]
  dsimp only
  rw [if_pos h]
  rfl

/-- The `key` script is its template around the escaped `key` parameter, `Enter` when it is
empty. -/
theorem buildInputScript_of_key {req : HttpRequest}
    (h : toLowerAscii (getParam req (lit "type")) = lit "key") :
    buildInputScript req =
      keyScriptHead ++ 39 :: jsSingleQuoteEscape
        (if getParam req (lit "key") = [] then lit "Enter" else getParam req (lit "key")) ++
          39 :: keyScriptTail := by
  rw [buildInputScript]
  dsimp only
  rw [if_neg (by rw [h]; decide), if_pos h]
  rfl

/-- The lexer reads the `text` head in eight tokens, `( ( ) => \x7b const t =`, up to the quote. -/
theorem textScriptHead_tokens (n : Nat) (w : Bytes) :
    jsTokensAux (n + 8) [] (textScriptHead ++ 39 :: w) =
      jsTokensAux n ((jsTokens textScriptHead).getD []).reverse (39 :: w) :=
  rfl

/-- The lexer reads the `key` head in eight tokens, `( ( ) => \x7b const k =`, up to the quote. -/
theorem keyScriptHead_tokens (n : Nat) (w : Bytes) :
    jsTokensAux (n + 8) [] (keyScriptHead ++ 39 :: w) =
      jsTokensAux n ((jsTokens keyScriptHead).getD []).reverse (39 :: w) :=
  rfl

set_option maxRecDepth 20000 in
/-- **No parameter adds code to a script.** `JsSingleQuoteEscape u` between single quotes is one
ECMAScript string literal with the value `u`, for every `u`; so for every request of type `text`,
and of type `key` (`Enter` for an empty key), the script that `BuildInputScript` returns lexes as
the tokens of its template's head, one string token whose value is the parameter, and the tokens
of the template's tail. -/
theorem buildInputScript_tokens :
    (∀ u rest, jsSingleString (jsSingleQuoteEscape u ++ 39 :: rest) = some (u, rest)) ∧
    (∀ req : HttpRequest, toLowerAscii (getParam req (lit "type")) = lit "text" →
      ∃ pre post, jsTokens textScriptHead = some pre ∧ jsTokens textScriptTail = some post ∧
        jsTokens (buildInputScript req) = some (pre ++ .str (getParam req (lit "text")) :: post)) ∧
    (∀ req : HttpRequest, toLowerAscii (getParam req (lit "type")) = lit "key" →
      ∃ pre post, jsTokens keyScriptHead = some pre ∧ jsTokens keyScriptTail = some post ∧
        jsTokens (buildInputScript req) =
          some (pre ++ .str (if getParam req (lit "key") = [] then lit "Enter"
            else getParam req (lit "key")) :: post)) := by
  refine ⟨jsSingleString_escape, fun req h => ?_, fun req h => ?_⟩
  · obtain ⟨post, hpost⟩ : ∃ post, jsTokens textScriptTail = some post := ⟨_, rfl⟩
    rw [buildInputScript_of_text h, jsTokens_template (by decide) textScriptHead_tokens, hpost]
    exact ⟨_, post, rfl, rfl, rfl⟩
  · obtain ⟨post, hpost⟩ : ∃ post, jsTokens keyScriptTail = some post := ⟨_, rfl⟩
    rw [buildInputScript_of_key h, jsTokens_template (by decide) keyScriptHead_tokens, hpost]
    exact ⟨_, post, rfl, rfl, rfl⟩

/-- `/input?type=text&text=');alert(1);('`, parsed. -/
def quoteRequest : HttpRequest :=
  ⟨lit "get", lit "/input", [(lit "type", lit "text"), (lit "text", lit "\x27);alert(1);(\x27")],
    [], [], []⟩

/-- The text `');alert(1);('`, which would close the literal if it were copied, is the value of
the script's one string token. -/
theorem buildInputScript_quote_text :
    ∃ pre post, jsTokens textScriptHead = some pre ∧ jsTokens textScriptTail = some post ∧
      jsTokens (buildInputScript quoteRequest) =
        some (pre ++ .str (lit "\x27);alert(1);(\x27") :: post) :=
  buildInputScript_tokens.2.1 quoteRequest rfl

end CefHostBridge
