/-!
# The syntax of regular expressions

A `Syntax` is a regular expression as it is written: groups, repetitions, flags and character
classes, before the flags are applied. Sequences and alternatives of several parts are chains of
`cat` and `alt` to the right; a part of a chain is never itself a chain of the same kind, because
only a group can hold one.
-/

namespace RoutePatterns

namespace Regex

/-- A flag that changes how an expression is read or what it matches. -/
inductive Flag where
  /-- `i`: letters match in either case. -/
  | ignoreCase
  /-- `m`: `^` and `$` match at line ends. -/
  | multiLine
  /-- `s`: the dot matches line ends. -/
  | dotAll
  /-- `U`: repetitions are lazy unless they are marked. -/
  | swapGreed
  /-- `u`: classes are those of Unicode. -/
  | unicode
  /-- `R`: a carriage return ends a line too. -/
  | crlf
  /-- `x`: blanks and comments are passed over. -/
  | verbose
deriving DecidableEq, Repr

/-- Flags that are set or cleared. -/
abbrev FlagChanges := List (Flag × Bool)

/-- A condition on a position. -/
inductive Assertion where
  | lineStart
  | lineEnd
  | textStart
  | textEnd
  | wordBoundary
  | notWordBoundary
  | wordStart
  | wordEnd
  | wordStartHalf
  | wordEndHalf
deriving DecidableEq, Repr

/-- A character as it is written; `isByte` if it is written with two hexadecimal digits. -/
structure Literal where
  char : Char
  isByte : Bool := false
deriving DecidableEq, Repr

/-- The classes with a letter of their own. -/
inductive LetterClass where
  | digit
  | space
  | word
deriving DecidableEq, Repr

/-- The named classes of ASCII characters. -/
inductive AsciiClass where
  | alnum
  | alpha
  | ascii
  | blank
  | cntrl
  | digit
  | graph
  | lower
  | print
  | punct
  | space
  | upper
  | word
  | xdigit
deriving DecidableEq, Repr

namespace AsciiClass

/-- The class of a name. -/
def ofName? : String → Option AsciiClass
  | "alnum" => some alnum
  | "alpha" => some alpha
  | "ascii" => some ascii
  | "blank" => some blank
  | "cntrl" => some cntrl
  | "digit" => some digit
  | "graph" => some graph
  | "lower" => some lower
  | "print" => some print
  | "punct" => some punct
  | "space" => some space
  | "upper" => some upper
  | "word" => some word
  | "xdigit" => some xdigit
  | _ => none

end AsciiClass

/-- A property of characters as it is written. -/
inductive PropertyQuery where
  /-- The name of a property, or of a value of one of the main properties. -/
  | named (name : String)
  /-- A property and its value. -/
  | valued (name value : String)
deriving DecidableEq, Repr

/-- An operation on two classes. -/
inductive SetOperation where
  | intersection
  | difference
  | symmetricDifference
deriving DecidableEq, Repr

/-- A part of a character class. -/
inductive ClassSyntax where
  | empty
  | char (l : Literal)
  | range (low high : Literal)
  | ascii (c : AsciiClass) (negated : Bool)
  | letter (c : LetterClass) (negated : Bool)
  | property (q : PropertyQuery) (negated : Bool)
  | bracket (negated : Bool) (inner : ClassSyntax)
  | union (a b : ClassSyntax)
  | operation (op : SetOperation) (a b : ClassSyntax)
deriving DecidableEq, Repr

namespace ClassSyntax

/-- The class of the items of a list. -/
def ofItems : List ClassSyntax → ClassSyntax
  | [] => empty
  | [a] => a
  | a :: as => union a (ofItems as)

end ClassSyntax

/-- What a group is for. -/
inductive GroupKind where
  /-- To capture what it matches, under a name if it has one. -/
  | capture (name : Option String)
  /-- To hold its parts together, with flags of its own. -/
  | plain (changes : FlagChanges)
deriving DecidableEq, Repr

/-- A regular expression as it is written. -/
inductive Syntax where
  | empty
  | flags (changes : FlagChanges)
  | char (l : Literal)
  | dot
  | assertion (a : Assertion)
  | set (c : ClassSyntax)
  | group (kind : GroupKind) (e : Syntax)
  /-- At least `min` times and at most `max` times. -/
  | repetition (min : Nat) (max : Option Nat) (lazy : Bool) (e : Syntax)
  | cat (a b : Syntax)
  | alt (a b : Syntax)
deriving DecidableEq, Repr, Inhabited

namespace Syntax

/-- The parts of a list one after the other. -/
def ofItems : List Syntax → Syntax
  | [] => empty
  | [e] => e
  | e :: es => cat e (ofItems es)

/-- A branch or one of the branches before it, which are given in reverse. -/
def ofBranches (branches : List Syntax) (last : Syntax) : Syntax :=
  branches.foldl (fun e branch => alt branch e) last

/-- A repetition may follow: there is something to repeat. -/
def isRepeatable : Syntax → Bool
  | empty | flags _ => false
  | _ => true

end Syntax

end Regex

end RoutePatterns
