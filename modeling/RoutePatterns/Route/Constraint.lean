import RoutePatterns.Regex.Basic

/-!
# Checking values against constraints

A value satisfies a constraint if the constraint, put into a group between `^` and `$`, matches it.
The constraint is not looked at before it is put there, so it is what the whole reads as that
counts.
-/

namespace RoutePatterns

/-- Why no path or host can be generated. -/
inductive GenerateError where
  /-- A variable that is required has no value. -/
  | missing (name : String)
  /-- A value does not satisfy the constraint of its variable. -/
  | mismatch (name value constraint : String)
  /-- A constraint is not a regular expression. -/
  | invalidConstraint (name constraint : String)
deriving DecidableEq, Repr

namespace GenerateError

/-- The message for a reader. -/
def message : GenerateError → String
  | missing name => "missing value for required parameter '" ++ name ++ "'"
  | mismatch name value constraint =>
    "parameter '" ++ name ++ "' value '" ++ value ++ "' does not match constraint '" ++
      constraint ++ "'"
  | invalidConstraint name constraint =>
    "constraint '" ++ constraint ++ "' for parameter '" ++ name ++ "' is not a valid regex"

end GenerateError

/-- A constraint as an expression for whole values. -/
def anchored (constraint : String) : String := "^(?:" ++ constraint ++ ")$"

/-- The regular expression for whole values of a constraint. -/
def constraintRegex? (constraint : String) : Option Regex := Regex.ofText? (anchored constraint)

/-- The outcome of checking a value of a variable with the expression of its constraint. -/
def checkWith (regex : Option Regex) (name constraint value : String) :
    Except GenerateError Unit :=
  match regex with
  | none => .error (.invalidConstraint name constraint)
  | some r => if r.isMatch value then .ok () else .error (.mismatch name value constraint)

/-- Checks a value of a variable against a constraint. -/
def checkConstraint (name constraint value : String) : Except GenerateError Unit :=
  checkWith (constraintRegex? constraint) name constraint value

end RoutePatterns
