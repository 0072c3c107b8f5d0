import RoutePatterns.Unicode.Word
import RoutePatterns.Pattern.Separator

/-!
# Placeholders in a text

A placeholder is a name of one or more word characters between braces. `scan` cuts a text into
its placeholders and the characters between them, from the left and without overlap. In a path a
name may be followed by a question mark, which makes the placeholder optional: `optionalNames`
lists the names so marked and `withoutMarks` is the text with the marks left out.
-/

namespace RoutePatterns

/-- What stands between the name of a placeholder and its end. -/
inductive SlotEnd where
  /-- The closing brace alone. -/
  | plain
  /-- A question mark and the closing brace. -/
  | optional
deriving DecidableEq, Repr

namespace SlotEnd

/-- The characters after the name. -/
def chars : SlotEnd → List Char
  | plain => ['\x7d']
  | optional => ['?', '\x7d']

end SlotEnd

/-- A piece of a text: a character, or a placeholder with its name. -/
inductive Piece where
  /-- A character outside the placeholders. -/
  | char (c : Char)
  /-- A placeholder. -/
  | slot (name : String)
deriving DecidableEq, Repr

namespace Piece

/-- The text of a piece, a placeholder being written without a mark. -/
def text : Piece → List Char
  | char c => [c]
  | slot name => '\x7b' :: name.toList ++ ['\x7d']

/-- The name of a placeholder. -/
def name? : Piece → Option String
  | char _ => none
  | slot name => some name

/-- The character of a piece outside the placeholders. -/
def char? : Piece → Option Char
  | char c => some c
  | slot _ => none

end Piece

/-- The name of the placeholder that a text begins with. -/
def slotName? (ending : SlotEnd) : List Char → Option (List Char)
  | [] => none
  | c :: cs =>
    if c = '\x7b' ∧ cs.takeWhile Unicode.isWord ≠ [] ∧
        ending.chars.isPrefixOf (cs.dropWhile Unicode.isWord) then
      some (cs.takeWhile Unicode.isWord)
    else none

/-- Cuts a text into pieces, after passing over `skip` characters of a placeholder that is
already known. -/
def scanAfter (ending : SlotEnd) (skip : Nat) : List Char → List Piece
  | [] => []
  | c :: cs =>
    match skip with
    | n + 1 => scanAfter ending n cs
    | 0 =>
      match slotName? ending (c :: cs) with
      | some name =>
        .slot (String.ofList name) :: scanAfter ending (name.length + ending.chars.length) cs
      | none => .char c :: scanAfter ending 0 cs

/-- The pieces of a text, from left to right. -/
def scan (ending : SlotEnd) (s : String) : List Piece := scanAfter ending 0 s.toList

/-- The names of the placeholders of a text, from left to right. -/
def slotNames (ending : SlotEnd) (s : String) : List String := (scan ending s).filterMap Piece.name?

/-- The names of the optional placeholders of a path, from left to right. -/
def optionalNames (path : String) : List String := slotNames .optional path

/-- A path in which every optional placeholder is written as a plain one. -/
def withoutMarks (path : String) : String :=
  String.ofList ((scan .optional path).flatMap Piece.text)

/-- The separator that comes next: the first character outside the placeholders, if it is a
separator. -/
def nextSeparator (following : List Piece) : Option Char :=
  (following.findSome? Piece.char?).filter isSeparator

/-- The separator that comes next in a text. -/
def nextSeparatorIn (following : String) : Option Char := nextSeparator (scan .plain following)

/-! ### Passing over characters -/

@[simp] theorem scanAfter_eq_drop (ending : SlotEnd) (skip : Nat) (cs : List Char) :
    scanAfter ending skip cs = scanAfter ending 0 (cs.drop skip) := by
  induction cs generalizing skip with
  | nil => cases skip <;> rfl
  | cons c cs ih =>
    cases skip with
    | zero => rfl
    | succ n => simpa [scanAfter] using ih n

end RoutePatterns
