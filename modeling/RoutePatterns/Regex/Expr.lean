import RoutePatterns.Regex.CharSet

/-!
# Regular expressions

An `Expr` says what a regular expression matches, with all flags applied: its atoms are sets of
characters and conditions on a position, and these are put together by sequence, choice,
repetition and capture.
-/

namespace RoutePatterns

namespace Regex

/-- Which characters make up words. -/
inductive WordKind where
  | unicode
  | ascii
deriving DecidableEq, Repr

/-- A word character of a kind. -/
def WordKind.contains : WordKind → Char → Bool
  | unicode, c => Unicode.isWord c
  | ascii, c => Unicode.isAsciiWord c

/-- A condition on a position in a text. -/
inductive Look where
  | textStart
  | textEnd
  | lineStart
  | lineEnd
  /-- The start of a line, where lines end with a carriage return, a line feed or both. -/
  | crlfLineStart
  | crlfLineEnd
  | wordBoundary (k : WordKind)
  | notWordBoundary (k : WordKind)
  | wordStart (k : WordKind)
  | wordEnd (k : WordKind)
  | wordStartHalf (k : WordKind)
  | wordEndHalf (k : WordKind)
deriving DecidableEq, Repr

namespace Look

/-- The condition holds between two characters, of which either is missing at an end of the text. -/
def holds (l : Look) (before after : Option Char) : Bool :=
  match l with
  | textStart => before.isNone
  | textEnd => after.isNone
  | lineStart => before.all (· == '\n')
  | lineEnd => after.all (· == '\n')
  | crlfLineStart => before.all fun c => c == '\n' || (c == '\r' && after != some '\n')
  | crlfLineEnd => after.all fun c => c == '\r' || (c == '\n' && before != some '\r')
  | wordBoundary k => before.any k.contains != after.any k.contains
  | notWordBoundary k => before.any k.contains == after.any k.contains
  | wordStart k => !before.any k.contains && after.any k.contains
  | wordEnd k => before.any k.contains && !after.any k.contains
  | wordStartHalf k => !before.any k.contains
  | wordEndHalf k => !after.any k.contains

end Look

/-- A regular expression. -/
inductive Expr where
  | empty
  /-- One character of a set. -/
  | one (s : CharSet)
  /-- Nothing, where a condition holds. -/
  | look (l : Look)
  | cat (a b : Expr)
  | alt (a b : Expr)
  /-- At least `min` and at most `max` times; as often as possible first if it is greedy. -/
  | repetition (min : Nat) (max : Option Nat) (greedy : Bool) (e : Expr)
  /-- A part whose match is kept, under a name if it has one. -/
  | capture (name : Option String) (e : Expr)
deriving DecidableEq, Repr, Inhabited

end Regex

end RoutePatterns
