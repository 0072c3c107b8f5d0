import RoutePatterns.Pattern.Quoted
import RoutePatterns.Pattern.Token

/-!
# The regular expression of a list of tokens

`assemble` writes the fragments of the tokens one after the other between `^` and `$`. A literal
text is quoted; a variable is its quoted separator followed by a group named after it. Every
variable of the optional run opens a group that is closed at the end, so that a later variable can
only be present together with the ones before it. If the run begins with the first token, its
separator is always there and only the value may be missing.
-/

namespace RoutePatterns

/-- The group of a variable. -/
def namedGroup (constraint name : String) : String := "(?<" ++ name ++ ">" ++ constraint ++ ")"

/-- The fragment of a token. -/
def Token.fragment : Token → String
  | text content => quote content
  | var separator constraint name =>
    quote (String.ofList separator.toList) ++ namedGroup constraint name

/-- The token at index `i` belongs to the optional run that begins at `first`. -/
def inOptionalRun (first : Option Nat) (i : Nat) : Bool := first.any fun n => n ≤ i

/-- The token at index `i` is a variable that opens a group. -/
def opensGroup (first : Option Nat) (token : Token × Nat) : Bool :=
  token.1.name?.isSome && inOptionalRun first token.2 && token.2 != 0

/-- What the token at an index contributes to the body of the expression. -/
def writtenToken (first : Option Nat) (token : Token × Nat) : String :=
  (if opensGroup first token then "(?:" else "") ++ token.1.fragment ++
    (if token.1.name?.isSome && inOptionalRun first token.2 && token.2 == 0 then "?" else "")

/-- The number of groups that are open after the last token. -/
def openGroups (first : Option Nat) (tokens : List Token) : Nat :=
  tokens.zipIdx.countP (opensGroup first)

/-- The anchored expression of a list of tokens whose optional run begins at `first`. -/
def assemble (tokens : List Token) (first : Option Nat) : String :=
  "^" ++ String.join (tokens.zipIdx.map (writtenToken first)) ++
    String.join (List.replicate (openGroups first tokens) ")?") ++ "$"

end RoutePatterns
