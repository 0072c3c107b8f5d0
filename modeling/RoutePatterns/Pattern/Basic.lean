import RoutePatterns.Bindings

/-!
# Route patterns

What a route is compiled from: a host with placeholders (empty if any host is served), a path with
placeholders, some of them optional, and expressions that override the constraints of single
variables.
-/

namespace RoutePatterns

/-- A route before compilation. -/
structure Pattern where
  /-- The host; empty if the route is for every host. -/
  host : String := ""
  /-- The path. -/
  path : String
  /-- Expressions for the values of variables, by name. -/
  overrides : Bindings := .empty
deriving DecidableEq, Inhabited

end RoutePatterns
