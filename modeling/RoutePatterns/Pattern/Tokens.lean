import RoutePatterns.Bindings
import RoutePatterns.Pattern.Error
import RoutePatterns.Pattern.Placeholder
import RoutePatterns.Pattern.Quoted
import RoutePatterns.Pattern.Token

/-!
# From a pattern to its tokens

`variableNames` collects the names of the placeholders of a text, up to the first one that is
refused. `tokens` turns the pieces of a text into tokens: the literal text before a placeholder
becomes a text token, less its last character if that is a separator, which the variable takes
along. `firstOptional` is where the optional variables at the end of a path begin.
-/

namespace RoutePatterns

/-- The two parts of a route that are compiled. -/
inductive Part where
  | host
  | path
deriving DecidableEq, Repr

namespace Part

/-- The separator that a value of the part never contains, unless its constraint is overridden. -/
def separator : Part → Char
  | host => '.'
  | path => '/'

end Part

/-! ### Names -/

/-- A name that begins with an ASCII digit. -/
def hasLeadingDigit (name : String) : Bool := name.toList.head?.any Char.isDigit

/-- Adds names to those that were found before, one after the other, and refuses the first one that is not
allowed after them, in the text `pattern`. -/
def collectNames (pattern : String) (found : List String) :
    List String → Except PatternError (List String)
  | [] => .ok found
  | name :: names =>
    if hasLeadingDigit name then .error (.leadingDigit pattern name)
    else if name ∈ found then .error (.repeatedName pattern name)
    else if name.length > maxNameLength then .error (.longName pattern name)
    else collectNames pattern (found ++ [name]) names

/-- The names of the placeholders of a text, or why the first one that is not allowed is refused. -/
def variableNames (pattern : String) : Except PatternError (List String) :=
  collectNames pattern [] (slotNames .plain pattern)

/-! ### Tokens -/

/-- The token of a text that is read in reverse, unless there is no text. -/
def textToken (reversed : List Char) : List Token :=
  if reversed.isEmpty then [] else [.text (String.ofList reversed.reverse)]

/-- The separator that a placeholder takes from the text before it, which is read in reverse. -/
def takenSeparator (reversed : List Char) : Option Char := reversed.head?.filter isSeparator

/-- The text before a placeholder without the separator that the placeholder takes, in reverse. -/
def remainingText (reversed : List Char) : List Char :=
  if (takenSeparator reversed).isSome then reversed.tail else reversed

/-- The expression for the values of a variable: the override of its name, or else the default for
what follows it. -/
def constraintFor (part : Part) (overrides : Lookup) (name : String) (following : List Piece) :
    String :=
  (overrides name).getD (defaultConstraint part.separator (nextSeparator following))

/-- The tokens of a text of which `reversed` was read since the last placeholder, in reverse. -/
def tokensAfter (part : Part) (overrides : Lookup) (reversed : List Char) :
    List Piece → List Token
  | [] => textToken reversed
  | .char c :: pieces => tokensAfter part overrides (c :: reversed) pieces
  | .slot name :: pieces =>
    textToken (remainingText reversed) ++
      .var (takenSeparator reversed) (constraintFor part overrides name pieces) name ::
        tokensAfter part overrides [] pieces

/-- The tokens of a text. -/
def tokens (part : Part) (overrides : Lookup) (pattern : String) : List Token :=
  tokensAfter part overrides [] (scan .plain pattern)

/-! ### The optional run -/

/-- A variable whose name is one of `optional`. -/
def Token.isOneOf (optional : List String) (token : Token) : Bool :=
  token.name?.any fun name => optional.contains name

/-- The index at which the variables of `optional` at the end of a list of tokens begin, if there
are any. -/
def firstOptional (optional : List String) (tokens : List Token) : Option Nat :=
  match (tokens.reverse.takeWhile (Token.isOneOf optional)).length with
  | 0 => none
  | n + 1 => some (tokens.length - (n + 1))

end RoutePatterns
