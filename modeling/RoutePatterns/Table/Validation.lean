import RoutePatterns.Cache.Basic
import RoutePatterns.Table.Config
import RoutePatterns.Unicode.Blank

/-!
# Validation of configurations

Every route of a configuration has to have a name of its own that is not blank, and a pattern that
compiles. `validate` compiles all patterns through the cache, in order, whatever the names are, and
collects every problem.
-/

namespace RoutePatterns

/-- A problem of a route in a configuration. -/
inductive ValidationError where
  /-- The name of the route at an index is blank. -/
  | blankName (index : Nat)
  /-- An earlier route has the same name. -/
  | duplicateName (name : String)
  /-- The pattern of a route is rejected. -/
  | pattern (route : String) (source : PatternError)
deriving DecidableEq, Repr

/-- The message for a reader. -/
def ValidationError.message : ValidationError → String
  | blankName index => "route #" ++ toString index ++ " has an empty name"
  | duplicateName name => "duplicate route name '" ++ name ++ "'"
  | pattern route source => "route '" ++ route ++ "': " ++ source.message

/-- The problem of a name after the names of `seen`. -/
def nameErrors (index : Nat) (seen : List String) (name : String) : List ValidationError :=
  if Unicode.isBlankText name then [.blankName index]
  else if seen.contains name then [.duplicateName name]
  else []

/-- The problem of a pattern. -/
def patternErrors (name : String) (access : Access) : List ValidationError :=
  (access.error?.map (ValidationError.pattern name)).toList

/-- The problems of routes, of which the first one has the given index and comes after the names of
`seen`. -/
def errorsFrom (index : Nat) (seen : List String) :
    List (RouteEntry × Access) → List ValidationError
  | [] => []
  | (e, access) :: rest =>
    nameErrors index seen e.name ++ patternErrors e.name access ++
      errorsFrom (index + 1) (if Unicode.isBlankText e.name then seen else e.name :: seen) rest

/-- The outcome of a validation. -/
structure Validation where
  /-- The artifacts in the order of the routes, or all problems. -/
  result : Except (List ValidationError) (List Artifact)
  /-- What the requests to the cache came to, in order. -/
  accesses : List Access
  /-- The cache afterwards. -/
  cache : Cache

/-- Checks a configuration and compiles its routes. -/
def validate (c : Config) (cache : Cache) : Validation :=
  let (accesses, cache) := cache.getAll (c.routes.map RouteEntry.pattern)
  let errors := errorsFrom 0 [] (c.routes.zip accesses)
  ⟨if errors.isEmpty then .ok (accesses.filterMap Access.artifact?) else .error errors,
    accesses, cache⟩

end RoutePatterns
