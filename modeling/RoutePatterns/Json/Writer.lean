import RoutePatterns.Json.Value

/-!
# Writing JSON

`Value.tokens` lists the tokens of a value. `Value.compact` writes them without blanks;
`Value.pretty` puts every item and member on a line of its own, indented by two spaces per level,
and leaves empty containers closed.
-/

namespace RoutePatterns

namespace Json

/-- A hexadecimal digit. -/
def hexChar (n : Nat) : Char := "0123456789abcdef".toList.getD n '0'

/-- A character inside a string: quotes, backslashes and control characters are escaped. -/
def escapeChar (c : Char) : List Char :=
  match c with
  | '"' => ['\\', '"']
  | '\\' => ['\\', '\\']
  | '\x08' => ['\\', 'b']
  | '\x0c' => ['\\', 'f']
  | '\n' => ['\\', 'n']
  | '\r' => ['\\', 'r']
  | '\t' => ['\\', 't']
  | c =>
    if c.toNat < 0x20 then
      ['\\', 'u', '0', '0', hexChar (c.toNat / 16), hexChar (c.toNat % 16)]
    else [c]

/-- A string in quotes. -/
def quoted (s : String) : String := String.ofList ('"' :: s.toList.flatMap escapeChar ++ ['"'])

/-- The text of a token. A string without text is written as an empty one. -/
def Token.text : Token → String
  | openBrace => "\x7b"
  | closeBrace => "\x7d"
  | openBracket => "["
  | closeBracket => "]"
  | comma => ","
  | colon => ":"
  | null => "null"
  | bool b => if b then "true" else "false"
  | number literal => literal
  | string text => quoted (text.getD "")

namespace Value

mutual

/-- The tokens of a value. -/
def tokens : Value → List Token
  | null => [.null]
  | bool b => [.bool b]
  | number literal => [.number literal]
  | string text => [.string text]
  | array items => .openBracket :: tokensOfItems items ++ [.closeBracket]
  | object members => .openBrace :: tokensOfMembers members ++ [.closeBrace]

/-- The tokens of the items of an array, with commas between them. -/
def tokensOfItems : List Value → List Token
  | [] => []
  | [v] => tokens v
  | v :: vs => tokens v ++ .comma :: tokensOfItems vs

/-- The tokens of the members of an object, with commas between them. -/
def tokensOfMembers : List (Option String × Value) → List Token
  | [] => []
  | [(k, v)] => .string k :: .colon :: tokens v
  | (k, v) :: ms => .string k :: .colon :: tokens v ++ .comma :: tokensOfMembers ms

end

theorem tokensOfItems_cons_cons (v w : Value) (vs : List Value) :
    tokensOfItems (v :: w :: vs) = tokens v ++ .comma :: tokensOfItems (w :: vs) := rfl

theorem tokensOfMembers_cons_cons (k : Option String) (v : Value) (m : Option String × Value)
    (ms : List (Option String × Value)) :
    tokensOfMembers ((k, v) :: m :: ms) =
      .string k :: .colon :: tokens v ++ .comma :: tokensOfMembers (m :: ms) := rfl

/-- The value without blanks. -/
def compact (v : Value) : String := String.join (v.tokens.map Token.text)

/-- A line break and the indentation of a level. -/
def newline (level : Nat) : String := String.ofList ('\n' :: List.replicate (2 * level) ' ')

mutual

/-- The value with one item or member per line, inside `level` containers. -/
def prettyAt (level : Nat) : Value → String
  | array [] => "[]"
  | array (v :: vs) => "[" ++ prettyItems (level + 1) (v :: vs) ++ newline level ++ "]"
  | object [] => "\x7b\x7d"
  | object (m :: ms) => "\x7b" ++ prettyMembers (level + 1) (m :: ms) ++ newline level ++ "\x7d"
  | null => Token.null.text
  | bool b => (Token.bool b).text
  | number literal => literal
  | string text => (Token.string text).text

/-- The items of an array, each on its line. -/
def prettyItems (level : Nat) : List Value → String
  | [] => ""
  | [v] => newline level ++ prettyAt level v
  | v :: vs => newline level ++ prettyAt level v ++ "," ++ prettyItems level vs

/-- The members of an object, each on its line. -/
def prettyMembers (level : Nat) : List (Option String × Value) → String
  | [] => ""
  | [(k, v)] => newline level ++ (Token.string k).text ++ ": " ++ prettyAt level v
  | (k, v) :: ms =>
    newline level ++ (Token.string k).text ++ ": " ++ prettyAt level v ++ "," ++
      prettyMembers level ms

end

/-- The value with one item or member per line. -/
def pretty (v : Value) : String := prettyAt 0 v

end Value

end Json

end RoutePatterns
