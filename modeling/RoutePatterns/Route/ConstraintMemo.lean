import RoutePatterns.Route.Generate

/-!
# Remembering the expressions of constraints

A `ConstraintMemo` keeps the expression of every constraint that was checked before, so that none is
read twice. A constraint that is no regular expression is not kept. Generation through a memo gives
the answers that generation without one gives.
-/

namespace RoutePatterns

/-- The expressions of the constraints that were checked before. -/
structure ConstraintMemo where
  entries : List (String × Regex) := []

namespace ConstraintMemo

/-- The memo before any check. -/
def empty : ConstraintMemo := {}

/-- The expression that is kept for a constraint. -/
def find? (m : ConstraintMemo) (constraint : String) : Option Regex := m.entries.lookup constraint

/-- Keeps the expression of a constraint. -/
def insert (m : ConstraintMemo) (constraint : String) (r : Regex) : ConstraintMemo :=
  ⟨(constraint, r) :: m.entries⟩

/-- The expression of a constraint, which is read if it is not kept yet. -/
def regex? (m : ConstraintMemo) (constraint : String) : Option Regex × ConstraintMemo :=
  match m.find? constraint with
  | some r => (some r, m)
  | none =>
    match constraintRegex? constraint with
    | some r => (some r, m.insert constraint r)
    | none => (none, m)

/-- Checks a value of a variable against a constraint. -/
def check (m : ConstraintMemo) (name constraint value : String) :
    Except GenerateError Unit × ConstraintMemo :=
  let (r, m) := m.regex? constraint
  (checkWith r name constraint value, m)

/-- Fills values into tokens; `first` if they are the first ones. -/
def renderFrom (optional : List String) (params : Lookup) (first : Bool) (m : ConstraintMemo) :
    List Token → Except GenerateError String × ConstraintMemo
  | [] => (.ok "", m)
  | .text content :: tokens =>
    let (rest, m) := renderFrom optional params false m tokens
    (rest.map (content ++ ·), m)
  | .var separator constraint name :: tokens =>
    match usedValue optional params name with
    | none =>
      (if optional.contains name then .ok (if first then separatorText separator else "")
        else .error (.missing name), m)
    | some value =>
      match m.check name constraint value with
      | (.error e, m) => (.error e, m)
      | (.ok (), m) =>
        let (rest, m) := renderFrom optional params false m tokens
        (rest.map (separatorText separator ++ value ++ ·), m)

/-- The path of a route for the given values. -/
def generatePath (m : ConstraintMemo) (r : Route) (params : Lookup) :
    Except GenerateError String × ConstraintMemo :=
  renderFrom r.optionalVariables params true m r.pathTokens

/-- The host of a route for the given values. -/
def generateHost (m : ConstraintMemo) (r : Route) (params : Lookup) :
    Except GenerateError String × ConstraintMemo :=
  renderFrom [] params true m r.hostTokens

end ConstraintMemo

end RoutePatterns
