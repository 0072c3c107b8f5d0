/-!
# Literal text inside a regular expression

`quote` writes a text so that, read as a regular expression, it stands for itself: each
metacharacter gets a backslash (`quote_append`, `toList_quote`). `defaultConstraint` is the
expression for a placeholder's value when no override is given: one or more characters, none of
them the default separator or the separator that follows the placeholder.
-/

namespace RoutePatterns

/-- The characters that are written with a backslash. -/
def metacharacters : List Char :=
  ['\\', '.', '+', '*', '?', '[', '^', ']', '$', '(', ')', '\x7b', '\x7d', '=', '!', '|', ':', '-']

/-- A character that is written with a backslash. -/
def isMetacharacter (c : Char) : Bool := metacharacters.contains c

/-- A character as a literal. -/
def quoteChar (c : Char) : List Char := if isMetacharacter c then ['\\', c] else [c]

/-- A text as a literal. -/
def quote (s : String) : String := String.ofList (s.toList.flatMap quoteChar)

@[simp] theorem toList_quote (s : String) : (quote s).toList = s.toList.flatMap quoteChar :=
  String.toList_ofList

theorem quote_append (s t : String) : quote (s ++ t) = quote s ++ quote t := by
  apply String.toList_injective
  simp

/-- One or more characters other than the default separator and the next separator. -/
def defaultConstraint (default : Char) (next : Option Char) : String :=
  let excluded := default :: (next.filter (· != default)).toList
  String.ofList (['[', '^'] ++ excluded.flatMap quoteChar ++ [']', '+'])

end RoutePatterns
