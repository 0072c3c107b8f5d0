import RoutePatterns.Pattern.Token

/-!
# Compiled routes

A `Route` is what a pattern is compiled to: for the path and for the host an anchored regular
expression, the tokens that it was assembled from, and the names of the variables.
-/

namespace RoutePatterns

/-- A compiled route. -/
structure Route where
  /-- The literal text that every path of the route begins with. -/
  staticPrefix : String
  /-- The expression that matches the paths. -/
  pathRegex : String
  /-- The tokens of the path, from left to right. -/
  pathTokens : List Token
  /-- The names of the variables of the path. -/
  pathVariables : List String
  /-- The names of the variables at the end of the path that may be missing. -/
  optionalVariables : List String
  /-- The expression that matches the hosts; empty if the route is for every host. -/
  hostRegex : String
  /-- The tokens of the host, from left to right. -/
  hostTokens : List Token
  /-- The names of the variables of the host. -/
  hostVariables : List String
  /-- The names of the host's variables, then of the path's variables not among them. -/
  allVariables : List String
deriving DecidableEq, Repr, Inhabited

namespace Route

/-- The route is for hosts of a certain form only. -/
def hasHost (r : Route) : Bool := !r.hostRegex.isEmpty

/-- The tokens of the path, from right to left. -/
def reversedPathTokens (r : Route) : List Token := r.pathTokens.reverse

/-- A variable of the path that may be missing. -/
def isOptional (r : Route) (name : String) : Bool := r.optionalVariables.contains name

end Route

end RoutePatterns
