/-!
# Tokens

A compiled host or path is a list of tokens, from left to right: literal texts, and variables with
the separator that they take along. A token is written back as the piece of the pattern that it was
read from (`Token.print`).
-/

namespace RoutePatterns

/-- A part of a compiled host or path. -/
inductive Token where
  /-- Literal text. -/
  | text (content : String)
  /-- A variable: the separator written before its value, the expression that the value has to
  match, and its name. -/
  | var (separator : Option Char) (constraint : String) (name : String)
deriving DecidableEq, Repr

namespace Token

/-- The name of a variable. -/
def name? : Token → Option String
  | text _ => none
  | var _ _ name => some name

/-- The names of the variables in a list, from left to right. -/
def names (tokens : List Token) : List String := tokens.filterMap name?

/-- The piece of a pattern that a token stands for; a variable of `optional` is written with its
mark. -/
def print (optional : List String) : Token → String
  | text content => content
  | var separator _ name =>
    String.ofList (separator.toList ++ '\x7b' :: name.toList ++
      (if name ∈ optional then ['?'] else []) ++ ['\x7d'])

/-- The pattern that a list of tokens stands for. -/
def printAll (optional : List String) (tokens : List Token) : String :=
  String.join (tokens.map (print optional))

end Token

end RoutePatterns
