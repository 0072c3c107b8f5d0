import RoutePatterns.Toml.Scalar
import RoutePatterns.Toml.Text
import RoutePatterns.Toml.Value

/-!
# TOML documents

`Value.read?` reads a document: each line is a pair of a key and a value, the header of a table or
of an array of tables, a comment, or blank. Arrays and inline tables may be nested in each other up
to `maxNesting` levels, and a key may have as many parts.
-/

namespace RoutePatterns

namespace Toml

/-- How deep arrays and inline tables may be nested, and how many parts a key may have. -/
def maxNesting : Nat := 79

/-! ### Keys -/

/-- A character of a key without quotes. -/
def isBareKey (c : Char) : Bool := c.isAlphanum || c == '-' || c == '_'

/-- A part of a key. -/
def keyPart? (cs : List Char) : Option (String × List Char) :=
  match cs with
  | '"' :: _ | '\'' :: _ => shortString? cs
  | cs =>
    if (cs.takeWhile isBareKey).isEmpty then none
    else some (String.ofList (cs.takeWhile isBareKey), cs.dropWhile isBareKey)

/-- The parts of a key, with dots and blanks between them; at most `fuel` of them. -/
def keyFor : Nat → List Char → Option (List String × List Char)
  | 0, _ => none
  | fuel + 1, cs => do
    let (part, rest) ← keyPart? (skipBlanks cs)
    match skipBlanks rest with
    | '.' :: rest => do
      let (parts, rest) ← keyFor fuel rest
      return (part :: parts, rest)
    | rest => return ([part], rest)

/-- A key: its last part, and the parts before it. -/
def key? (cs : List Char) : Option (List String × String × List Char) := do
  let (parts, rest) ← keyFor maxNesting cs
  let last ← parts.getLast?
  return (parts.dropLast, last, rest)

/-! ### Values -/

/-- A reader of values. -/
abbrev ValueReader := List Char → Option (Value × List Char)

/-- The items of an array after its opening bracket, each of them read by `item?`. -/
def itemsFor (item? : ValueReader) : Nat → List Char → Option (List Value × List Char)
  | 0, _ => none
  | fuel + 1, cs =>
    match skipLines cs with
    | ']' :: rest => some ([], rest)
    | cs => do
      let (v, rest) ← item? cs
      match skipLines rest with
      | ',' :: rest => do
        let (vs, rest) ← itemsFor item? fuel rest
        return (v :: vs, rest)
      | ']' :: rest => return ([v], rest)
      | _ => none

/-- A key and its value, without blanks after it. -/
def pair? (value? : ValueReader) (cs : List Char) :
    Option ((List String × String × Value) × List Char) := do
  let (path, key, rest) ← key? cs
  let rest ← expect? '=' rest
  let (v, rest) ← value? (skipBlanks rest)
  return ((path, key, v), skipBlanks rest)

/-- The pairs of an inline table, at least one, up to its closing brace. -/
def pairsFor (value? : ValueReader) :
    Nat → Members → List Char → Option (Members × List Char)
  | 0, _, _ => none
  | fuel + 1, ms, cs => do
    let ((path, key, v), rest) ← pair? value? cs
    let ms ← ms.addPair path key v .header
    match rest with
    | ',' :: rest => pairsFor value? fuel ms rest
    | '\x7d' :: rest => return (ms, rest)
    | _ => none

/-- An inline table after its opening brace. -/
def inlineTable? (value? : ValueReader) : ValueReader := fun cs =>
  match skipBlanks cs with
  | '\x7d' :: rest => some (.table [], rest)
  | cs => (pairsFor value? cs.length [] cs).map fun r => (r.1.toValue, r.2)

/-- A value that holds at most `levels` arrays and inline tables in each other. -/
def valueWithin : Nat → ValueReader
  | levels, cs =>
    match cs with
    | '[' :: rest =>
      match levels with
      | 0 => none
      | levels + 1 =>
        (itemsFor (valueWithin levels) (rest.length + 1) rest).map fun r => (.array r.1, r.2)
    | '\x7b' :: rest =>
      match levels with
      | 0 => none
      | levels + 1 => inlineTable? (valueWithin levels) rest
    | '"' :: _ | '\'' :: _ => (string? cs).map fun r => (.string r.1, r.2)
    | cs => scalar? cs

/-- A value. -/
def value? : ValueReader := valueWithin maxNesting

/-! ### Lines -/

/-- A line of a document that says something. -/
inductive Line where
  | pair (path : List String) (key : String) (v : Value)
  | header (path : List String) (key : String)
  | arrayHeader (path : List String) (key : String)

/-- A header after its opening brackets. -/
def header? (closing : List Char) (cs : List Char) :
    Option (List String × String × List Char) := do
  let (path, key, rest) ← key? cs
  guard (closing.isPrefixOf rest)
  return (path, key, rest.drop closing.length)

/-- A line that says something, and the text after it. -/
def line? (cs : List Char) : Option (Line × List Char) :=
  match cs with
  | '[' :: '[' :: cs => do
    let (path, key, rest) ← header? [']', ']'] cs
    return (.arrayHeader path key, ← endOfLine? rest)
  | '[' :: cs => do
    let (path, key, rest) ← header? [']'] cs
    return (.header path key, ← endOfLine? rest)
  | cs => do
    let ((path, key, v), rest) ← pair? value? cs
    return (.pair path key v, ← endOfLine? rest)

/-- The lines that say something, at most `fuel` of them. -/
def linesFrom : Nat → List Char → Option (List Line)
  | fuel, cs =>
    match skipLines cs with
    | [] => some []
    | cs =>
      match fuel, skipComment cs with
      | _, [] => some []
      | 0, _ => none
      | fuel + 1, _ => do
        let (line, rest) ← line? cs
        let lines ← linesFrom fuel rest
        return line :: lines

/-! ### Documents -/

/-- A document that is being read: its members, and the path of the table that pairs are added
to. -/
structure Building where
  members : Members := []
  current : List String := []

namespace Building

/-- Adds what a line says. -/
def add (b : Building) : Line → Option Building
  | .pair path key v => do
    let ms ← Members.update false (Members.addPair path key v) b.current .header b.members
    return { b with members := ms }
  | .header path key => do
    let ms ← b.members.openTable path key
    return ⟨ms, path ++ [key]⟩
  | .arrayHeader path key => do
    let ms ← b.members.openArray path key
    return ⟨ms, path ++ [key]⟩

end Building

/-- Drops a byte order mark. -/
def skipMark : List Char → List Char
  | '\ufeff' :: cs => cs
  | cs => cs

/-- The table that a document denotes. -/
def Value.read? (s : String) : Option Value := do
  let cs := skipMark s.toList
  let lines ← linesFrom cs.length cs
  let b ← lines.foldlM Building.add ({} : Building)
  return b.members.toValue

end Toml

end RoutePatterns
