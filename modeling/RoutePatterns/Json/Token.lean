/-!
# The tokens of a JSON text

`lex` cuts a text into the tokens of the JSON grammar, blanks left out. It looks at one character
at a time, so what it reads from a text is settled by the state it is in. The text of a string may
name half of a surrogate pair, which is no character: such a string has no text, but it is still a
token, and only a reader that wants its text has to refuse it.
-/

namespace RoutePatterns

namespace Json

/-- A token of the JSON grammar. -/
inductive Token where
  | openBrace
  | closeBrace
  | openBracket
  | closeBracket
  | comma
  | colon
  | null
  | bool (b : Bool)
  /-- A number, as it is written. -/
  | number (literal : String)
  /-- A string; `none` if it names half of a surrogate pair. -/
  | string (text : Option String)
deriving DecidableEq, Repr

/-- A JSON blank. -/
def isBlank (c : Char) : Bool := c == ' ' || c == '\n' || c == '\t' || c == '\r'

/-- The value of a hexadecimal digit. -/
def hexDigit? (c : Char) : Option Nat :=
  if c.isDigit then some (c.toNat - '0'.toNat)
  else if 'a' ≤ c ∧ c ≤ 'f' then some (c.toNat - 'a'.toNat + 10)
  else if 'A' ≤ c ∧ c ≤ 'F' then some (c.toNat - 'A'.toNat + 10)
  else none

/-! ### Strings -/

/-- What has been read of a string: its characters in reverse, unless it has no text, and the first
half of a surrogate pair if that was the last thing read. -/
structure StringSoFar where
  chars : Option (List Char) := some []
  half : Option Nat := none

namespace StringSoFar

/-- Adds a character; half a pair before it makes the string one without text. -/
def push (s : StringSoFar) (c : Char) : StringSoFar :=
  match s.half with
  | none => { s with chars := s.chars.map (c :: ·) }
  | some _ => { chars := none }

/-- Adds a 16-bit unit that was written as an escape. -/
def pushUnit (s : StringSoFar) (unit : Nat) : StringSoFar :=
  match s.half with
  | some high =>
    if 0xDC00 ≤ unit ∧ unit ≤ 0xDFFF then
      let code := 0x10000 + (high - 0xD800) * 0x400 + (unit - 0xDC00)
      { chars := s.chars.map (Char.ofNat code :: ·) }
    else { chars := none }
  | none =>
    if 0xD800 ≤ unit ∧ unit ≤ 0xDBFF then { s with half := some unit }
    else if 0xDC00 ≤ unit ∧ unit ≤ 0xDFFF then { chars := none }
    else { s with chars := s.chars.map (Char.ofNat unit :: ·) }

/-- The text of the string. -/
def text (s : StringSoFar) : Option String :=
  match s.half with
  | none => s.chars.map fun cs => String.ofList cs.reverse
  | some _ => none

end StringSoFar

/-- The character that a one-letter escape stands for. -/
def escaped? : Char → Option Char
  | '"' => some '"'
  | '\\' => some '\\'
  | '/' => some '/'
  | 'b' => some '\x08'
  | 'f' => some '\x0c'
  | 'n' => some '\n'
  | 'r' => some '\r'
  | 't' => some '\t'
  | _ => none

/-! ### Numbers -/

/-- How much of a number has been read. -/
inductive NumberPart where
  /-- A minus sign. -/
  | sign
  /-- A leading zero, after which no digit may come. -/
  | zero
  /-- Digits of the integer part. -/
  | integer
  /-- The point. -/
  | point
  /-- Digits of the fraction. -/
  | fraction
  /-- The letter of the exponent. -/
  | exponent
  /-- The sign of the exponent. -/
  | exponentSign
  /-- Digits of the exponent. -/
  | exponentDigits
deriving DecidableEq, Repr

namespace NumberPart

/-- The part that a character leads to. -/
def next? : NumberPart → Char → Option NumberPart
  | sign, c => if c == '0' then some zero else if c.isDigit then some integer else none
  | zero, c =>
    if c == '.' then some point else if c == 'e' || c == 'E' then some exponent else none
  | integer, c =>
    if c.isDigit then some integer
    else if c == '.' then some point
    else if c == 'e' || c == 'E' then some exponent
    else none
  | point, c => if c.isDigit then some fraction else none
  | fraction, c =>
    if c.isDigit then some fraction else if c == 'e' || c == 'E' then some exponent else none
  | exponent, c =>
    if c == '+' || c == '-' then some exponentSign
    else if c.isDigit then some exponentDigits
    else none
  | exponentSign, c => if c.isDigit then some exponentDigits else none
  | exponentDigits, c => if c.isDigit then some exponentDigits else none

/-- A number may end here. -/
def isComplete : NumberPart → Bool
  | zero | integer | fraction | exponentDigits => true
  | _ => false

/-- The part that the first character of a number is. -/
def first? (c : Char) : Option NumberPart :=
  if c == '-' then some sign
  else if c == '0' then some zero
  else if c.isDigit then some integer
  else none

end NumberPart

/-! ### The scanner -/

/-- What the scanner is in the middle of. -/
inductive LexState where
  /-- Nothing. -/
  | between
  /-- A word, of which `rest` is still to come. -/
  | word (rest : List Char) (token : Token)
  /-- A number. -/
  | number (part : NumberPart) (read : List Char)
  /-- A string. -/
  | string (s : StringSoFar)
  /-- A string, after a backslash. -/
  | escape (s : StringSoFar)
  /-- A string, in an escaped unit of which `left + 1` digits are missing. -/
  | unit (s : StringSoFar) (left value : Nat)

/-- The state that a character between two tokens leads to, and the token that it is. -/
def startToken (c : Char) : Option (List Token × LexState) :=
  if isBlank c then some ([], .between)
  else match c with
    | '\x7b' => some ([.openBrace], .between)
    | '\x7d' => some ([.closeBrace], .between)
    | '[' => some ([.openBracket], .between)
    | ']' => some ([.closeBracket], .between)
    | ',' => some ([.comma], .between)
    | ':' => some ([.colon], .between)
    | '"' => some ([], .string {})
    | 'n' => some ([], .word ['u', 'l', 'l'] .null)
    | 't' => some ([], .word ['r', 'u', 'e'] (.bool true))
    | 'f' => some ([], .word ['a', 'l', 's', 'e'] (.bool false))
    | _ => (NumberPart.first? c).map fun part => ([], .number part [c])

/-- Reads one character: the tokens that it completes, and the state after it. -/
def lexStep : LexState → Char → Option (List Token × LexState)
  | .between, c => startToken c
  | .word [] token, c => (startToken c).map fun r => (token :: r.1, r.2)
  | .word (d :: rest) token, c =>
    if c = d then
      if rest.isEmpty then some ([token], .between) else some ([], .word rest token)
    else none
  | .number part read, c =>
    match part.next? c with
    | some part => some ([], .number part (c :: read))
    | none =>
      if part.isComplete then
        (startToken c).map fun r => (.number (String.ofList read.reverse) :: r.1, r.2)
      else none
  | .string s, c =>
    if c = '"' then some ([.string s.text], .between)
    else if c = '\\' then some ([], .escape s)
    else if c.toNat < 0x20 then none
    else some ([], .string (s.push c))
  | .escape s, c =>
    if c = 'u' then some ([], .unit s 3 0)
    else (escaped? c).map fun d => ([], .string (s.push d))
  | .unit s left value, c =>
    (hexDigit? c).map fun d =>
      match left with
      | 0 => ([], .string (s.pushUnit (value * 16 + d)))
      | left + 1 => ([], .unit s left (value * 16 + d))

/-- The tokens that the end of the text completes. -/
def lexEnd : LexState → Option (List Token)
  | .between => some []
  | .number part read =>
    if part.isComplete then some [.number (String.ofList read.reverse)] else none
  | _ => none

/-- The tokens of a text that is read from a state on. -/
def lexFrom (state : LexState) : List Char → Option (List Token)
  | [] => lexEnd state
  | c :: cs => do
    let (tokens, state) ← lexStep state c
    let rest ← lexFrom state cs
    return tokens ++ rest

/-- The tokens of a text, if it can be cut into tokens. -/
def lex (s : String) : Option (List Token) := lexFrom .between s.toList

end Json

end RoutePatterns
