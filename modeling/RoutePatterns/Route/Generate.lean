import RoutePatterns.Bindings
import RoutePatterns.Route.Basic
import RoutePatterns.Route.Constraint

/-!
# Generating paths and hosts

`render` fills the values of variables into a list of tokens, from left to right. The first optional
variable without a value ends the text; if it is the first token of all, its separator is still
written.
-/

namespace RoutePatterns

/-- The value that is used for a variable; an optional variable has to have a value that is not
empty. -/
def usedValue (optional : List String) (params : Lookup) (name : String) : Option String :=
  (params name).filter fun value => !(optional.contains name && value.isEmpty)

/-- A separator as text. -/
def separatorText (separator : Option Char) : String := String.ofList separator.toList

/-- Fills values into tokens; `first` if they are the first ones. -/
def renderFrom (optional : List String) (params : Lookup) (first : Bool) :
    List Token → Except GenerateError String
  | [] => .ok ""
  | .text content :: tokens => do
    let rest ← renderFrom optional params false tokens
    return content ++ rest
  | .var separator constraint name :: tokens =>
    match usedValue optional params name with
    | none =>
      if optional.contains name then .ok (if first then separatorText separator else "")
      else .error (.missing name)
    | some value => do
      checkConstraint name constraint value
      let rest ← renderFrom optional params false tokens
      return separatorText separator ++ value ++ rest

/-- Fills values into tokens. -/
def render (tokens : List Token) (optional : List String) (params : Lookup) :
    Except GenerateError String :=
  renderFrom optional params true tokens

namespace Route

/-- The path for the given values. -/
def generatePath (r : Route) (params : Lookup) : Except GenerateError String :=
  render r.pathTokens r.optionalVariables params

/-- The host for the given values. -/
def generateHost (r : Route) (params : Lookup) : Except GenerateError String :=
  render r.hostTokens [] params

end Route

end RoutePatterns
