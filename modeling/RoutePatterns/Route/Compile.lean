import RoutePatterns.Pattern.Assembly
import RoutePatterns.Pattern.Basic
import RoutePatterns.Pattern.Tokens
import RoutePatterns.Route.Basic

/-!
# Compilation of patterns

`compileWith` compiles a host and a path under a look-up of constraint overrides; `compile` is the
same for a pattern. The host is read before the path, and a refused name in either rejects the
whole route.
-/

namespace RoutePatterns

/-- A compiled host or path. -/
structure CompiledPart where
  /-- The tokens, from left to right. -/
  tokens : List Token := []
  /-- The names of the variables, from left to right. -/
  names : List String := []
  /-- The regular expression. -/
  regex : String := ""
  /-- Where the optional run begins. -/
  firstOptional : Option Nat := none

namespace CompiledPart

/-- The text that the part begins with. -/
def staticPrefix (p : CompiledPart) : String :=
  match p.tokens with
  | .text content :: _ => content
  | _ => ""

/-- The names of the variables of the optional run. -/
def optionalVariables (p : CompiledPart) : List String :=
  match p.firstOptional with
  | none => []
  | some first => Token.names (p.tokens.drop first)

end CompiledPart

/-- Compiles a text in which the placeholders of `optional` may be missing if they come last. -/
def compilePart (part : Part) (overrides : Lookup) (optional : List String) (pattern : String) :
    Except PatternError CompiledPart := do
  let names ← variableNames pattern
  let tokens := tokens part overrides pattern
  let first := firstOptional optional tokens
  return ⟨tokens, names, assemble tokens first, first⟩

/-- Compiles a host; an empty host compiles to nothing. -/
def compileHost (overrides : Lookup) (host : String) : Except PatternError CompiledPart :=
  if host.isEmpty then .ok {} else compilePart .host overrides [] host

/-- Compiles a path. -/
def compilePath (overrides : Lookup) (path : String) : Except PatternError CompiledPart :=
  compilePart .path overrides (optionalNames path) (withoutMarks path)

/-- Adds a name to a list of names, unless it is there already. -/
def addName (names : List String) (name : String) : List String :=
  if names.contains name then names else names ++ [name]

/-- The names of a first list, to which those of a second one are added one after the other. -/
def mergeNames (names names' : List String) : List String := names'.foldl addName names

/-- The route of a compiled host and a compiled path. -/
def Route.ofParts (host path : CompiledPart) : Route where
  staticPrefix := path.staticPrefix
  pathRegex := path.regex
  pathTokens := path.tokens
  pathVariables := path.names
  optionalVariables := path.optionalVariables
  hostRegex := host.regex
  hostTokens := host.tokens
  hostVariables := host.names
  allVariables := mergeNames host.names path.names

/-- Compiles a host and a path under constraint overrides. -/
def compileWith (host path : String) (overrides : Lookup) : Except PatternError Route := do
  let host ← compileHost overrides host
  let path ← compilePath overrides path
  return Route.ofParts host path

/-- Compiles a pattern. -/
def compile (p : Pattern) : Except PatternError Route :=
  compileWith p.host p.path p.overrides.get?

end RoutePatterns
