/-!
# Why a pattern is rejected

Each reason names the offending placeholder and the text that it stands in: the host itself, or the
path with the marks of its optional placeholders left out.
-/

namespace RoutePatterns

/-- The number of characters that a placeholder name may have. -/
def maxNameLength : Nat := 32

/-- Why a pattern is rejected. -/
inductive PatternError where
  /-- The name begins with an ASCII digit. -/
  | leadingDigit (pattern name : String)
  /-- The name stands for an earlier placeholder of the same text. -/
  | repeatedName (pattern name : String)
  /-- The name has more than `maxNameLength` characters. -/
  | longName (pattern name : String)
deriving DecidableEq, Repr

namespace PatternError

/-- The text that holds the placeholder. -/
def pattern : PatternError → String
  | leadingDigit pattern _ | repeatedName pattern _ | longName pattern _ => pattern

/-- The name of the placeholder. -/
def name : PatternError → String
  | leadingDigit _ name | repeatedName _ name | longName _ name => name

/-- A short label, by which rejected patterns are counted. -/
def label : PatternError → String
  | leadingDigit .. => "invalid_name"
  | repeatedName .. => "duplicate_name"
  | longName .. => "name_too_long"

/-- The message for a reader. -/
def message : PatternError → String
  | leadingDigit pattern name =>
    "variable name '" ++ name ++ "' cannot start with a digit in route pattern '" ++ pattern ++ "'"
  | repeatedName pattern name =>
    "route pattern '" ++ pattern ++ "' cannot reference variable name '" ++ name ++
      "' more than once"
  | longName pattern name =>
    "variable name '" ++ name ++ "' cannot be longer than " ++ toString maxNameLength ++
      " characters in route pattern '" ++ pattern ++ "'"

end PatternError

end RoutePatterns
