import RoutePatterns.Unicode.Printable

/-!
# Quoted texts

`quoted` writes a text between double quotes so that it stays on one line and shows every character:
a character that is not printable is written by its code point.
-/

namespace RoutePatterns

namespace Log

/-- A character by its code point. -/
def codePoint (c : Char) : List Char :=
  ['\\', 'u', '\x7b'] ++ Nat.toDigits 16 c.toNat ++ ['\x7d']

/-- A character between quotes. -/
def escape (c : Char) : List Char :=
  match c with
  | '"' => ['\\', '"']
  | '\\' => ['\\', '\\']
  | '\x00' => ['\\', '0']
  | '\t' => ['\\', 't']
  | '\n' => ['\\', 'n']
  | '\r' => ['\\', 'r']
  | c => if Unicode.isPrintable c then [c] else codePoint c

/-- A text between quotes. -/
def quoted (s : String) : String := String.ofList ('"' :: s.toList.flatMap escape ++ ['"'])

end Log

end RoutePatterns
