/-!
# Blanks, comments and strings of TOML

Each reader splits what it reads off the front of a text and gives the rest, or refuses the text.
-/

namespace RoutePatterns

namespace Toml

/-! ### Blanks and comments -/

/-- A blank inside of a line. -/
def isBlank (c : Char) : Bool := c == ' ' || c == '\t'

/-- A character that may stand in a comment or a string: no control character but the tab. -/
def isPlain (c : Char) : Bool := c == '\t' || (c.toNat ≥ 0x20 && c.toNat != 0x7F)

/-- Drops blanks inside of a line. -/
def skipBlanks (cs : List Char) : List Char := cs.dropWhile isBlank

/-- Drops a comment. -/
def skipComment : List Char → List Char
  | '#' :: cs => cs.dropWhile isPlain
  | cs => cs

/-- Splits off a line break. -/
def newline? : List Char → Option (List Char)
  | '\n' :: cs => some cs
  | '\r' :: '\n' :: cs => some cs
  | _ => none

/-- Splits off the rest of a line, on which there is at most a comment. -/
def endOfLine? (cs : List Char) : Option (List Char) :=
  match skipComment (skipBlanks cs) with
  | [] => some []
  | cs => newline? cs

/-- Drops blanks, comments and line breaks, at most `fuel` lines of them. -/
def skipLinesFor : Nat → List Char → List Char
  | 0, cs => cs
  | fuel + 1, cs =>
    match newline? (skipComment (skipBlanks cs)) with
    | some rest => skipLinesFor fuel rest
    | none => skipBlanks cs

/-- Drops blanks, comments and line breaks. A comment that no line break ends is not dropped. -/
def skipLines (cs : List Char) : List Char := skipLinesFor cs.length cs

/-! ### Strings -/

/-- The value of a hexadecimal digit. -/
def hexDigit? (c : Char) : Option Nat :=
  if c.isDigit then some (c.toNat - 48)
  else if 'a' ≤ c ∧ c ≤ 'f' then some (c.toNat - 87)
  else if 'A' ≤ c ∧ c ≤ 'F' then some (c.toNat - 55)
  else none

/-- The character whose code point is written in exactly `n` digits. -/
def codePoint? (n : Nat) (cs : List Char) : Option (Char × List Char) := do
  let digits ← (cs.take n).mapM hexDigit?
  guard (digits.length = n)
  let code := digits.foldl (fun n d => n * 16 + d) 0
  guard code.isValidChar
  return (Char.ofNat code, cs.drop n)

/-- The character of an escape, after the backslash. -/
def escape? : List Char → Option (Char × List Char)
  | 'b' :: cs => some ('\x08', cs)
  | 't' :: cs => some ('\t', cs)
  | 'n' :: cs => some ('\n', cs)
  | 'f' :: cs => some ('\x0c', cs)
  | 'r' :: cs => some ('\r', cs)
  | '"' :: cs => some ('"', cs)
  | '\\' :: cs => some ('\\', cs)
  | 'u' :: cs => codePoint? 4 cs
  | 'U' :: cs => codePoint? 8 cs
  | _ => none

/-- The rest of a basic string, after `read` in reverse. -/
def basicFor (fuel : Nat) (read : List Char) (cs : List Char) : Option (List Char × List Char) :=
  match fuel, cs with
  | _, '"' :: cs => some (read.reverse, cs)
  | fuel + 1, '\\' :: cs => do
    let (c, cs) ← escape? cs
    basicFor fuel (c :: read) cs
  | fuel + 1, c :: cs => if isPlain c then basicFor fuel (c :: read) cs else none
  | _, _ => none

/-- The rest of a literal string, after `read` in reverse. -/
def literalFrom (read : List Char) : List Char → Option (List Char × List Char)
  | [] => none
  | '\'' :: cs => some (read.reverse, cs)
  | c :: cs => if isPlain c then literalFrom (c :: read) cs else none

/-- Drops the line break that may come first in a string of several lines. -/
def skipNewline (cs : List Char) : List Char := (newline? cs).getD cs

/-- Drops blanks and line breaks. -/
def skipSpace (cs : List Char) : List Char :=
  match cs with
  | [] => []
  | '\n' :: cs => skipSpace cs
  | '\r' :: '\n' :: cs => skipSpace cs
  | c :: cs => if isBlank c then skipSpace cs else c :: cs

/-- The end of a string of several lines: of the quotes that a text begins with, at least three,
the last three end the string and at most two before them belong to it. -/
def closing? (quote : Char) (cs : List Char) : Option (List Char × List Char) :=
  let quotes := (cs.takeWhile (· == quote)).length
  if quotes < 3 then none
  else
    let inside := Nat.min (quotes - 3) 2
    some (List.replicate inside quote, cs.drop (inside + 3))

/-- The rest of a string of several lines between the given quotes, after `read` in reverse;
backslashes have a meaning if `escapes`. -/
def linesFor (quote : Char) (escapes : Bool) (fuel : Nat) (read : List Char) (cs : List Char) :
    Option (List Char × List Char) :=
  match fuel, cs with
  | 0, _ => none
  | _, [] => none
  | fuel + 1, c :: rest =>
    if c == quote then
      match closing? quote cs with
      | some (inside, rest) => some (read.reverse ++ inside, rest)
      | none => linesFor quote escapes fuel (c :: read) rest
    else if escapes && c == '\\' then
      match newline? (skipBlanks rest) with
      | some rest => linesFor quote escapes fuel read (skipSpace rest)
      | none => do
        let (c, rest) ← escape? rest
        linesFor quote escapes fuel (c :: read) rest
    else
      match newline? cs with
      | some rest => linesFor quote escapes fuel ('\n' :: read) rest
      | none => if isPlain c then linesFor quote escapes fuel (c :: read) rest else none

/-- A string on one line, which a key may be too. -/
def shortString? (cs : List Char) : Option (String × List Char) :=
  match cs with
  | '"' :: cs => (basicFor cs.length [] cs).map fun r => (String.ofList r.1, r.2)
  | '\'' :: cs => (literalFrom [] cs).map fun r => (String.ofList r.1, r.2)
  | _ => none

/-- A string of any kind. -/
def string? (cs : List Char) : Option (String × List Char) :=
  match cs with
  | '"' :: '"' :: '"' :: cs =>
    (linesFor '"' true cs.length [] (skipNewline cs)).map fun r => (String.ofList r.1, r.2)
  | '\'' :: '\'' :: '\'' :: cs =>
    (linesFor '\'' false cs.length [] (skipNewline cs)).map fun r => (String.ofList r.1, r.2)
  | cs => shortString? cs

end Toml

end RoutePatterns
