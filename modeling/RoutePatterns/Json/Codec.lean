import RoutePatterns.Data.FloatRange
import RoutePatterns.Json.Writer
import RoutePatterns.Route.Basic
import RoutePatterns.Table.Config

/-!
# The JSON forms of tokens, routes, patterns and configurations

Each type has an encoder to `Json.Value` and a decoder from it, and `Coded` names the pair. A token
says in the member `kind` what it is. Since that member may stand anywhere, the other members of a
token are read before their meaning is known, so even unknown ones have to be values that can be
kept: no strings without text, no numbers beyond the floating-point range, and no deeper nesting
than `maxDepth` allows.
-/

namespace RoutePatterns

namespace Json

/-- The number of containers that a value which is kept may stand in, itself counted. -/
def maxDepth : Nat := 127

/-- JSON as a data format: records written as lists have no excess items. A table with a key that
has no text is none. -/
def format : Data.Format Value where
  view
    | .null => .null
    | .string (some s) => .text s
    | .array items => .list items
    | .object members =>
      match members.mapM fun m => m.1.map fun k => (k, m.2) with
      | some members => .table members
      | none => .other
    | _ => .other
  allowsExcess := false

/-- A scalar that can be kept. -/
def isKept : Value → Bool
  | .string text => text.isSome
  | .number literal => Data.inRange literal
  | _ => true

/-- A value inside `level` containers that can be kept. -/
def canKeep (level : Nat) (v : Value) : Bool :=
  v.leaves.all isKept && decide (level + v.depth ≤ maxDepth)

/-! ### Tokens -/

/-- A single character. -/
def char? (v : Value) : Option Char := do
  match (← format.text? v).toList with
  | [c] => some c
  | _ => none

/-- A separator, which may be null. -/
def separator? : Value → Option (Option Char)
  | .null => some none
  | v => (char? v).map some

/-- The token with the given kind whose fields are the items of a list. -/
def tokenOfItems? : String → List Value → Option RoutePatterns.Token
  | "text", [content] => (format.text? content).map .text
  | "variable", [separator, constraint, name] => do
    let separator ← separator? separator
    let constraint ← format.text? constraint
    let name ← format.text? name
    return .var separator constraint name
  | _, _ => none

/-- The token with the given kind whose fields are the members of a table. -/
def tokenOfMembers? (kind : String) (members : List (String × Value)) :
    Option RoutePatterns.Token :=
  match kind with
  | "text" => do
    let r ← Data.Format.ofMembers? ["content"] members
    return .text (← r.required "content" format.text?)
  | "variable" => do
    let r ← Data.Format.ofMembers? ["separator", "constraint", "name"] members
    let separator ← r.withDefault "separator" none separator?
    let constraint ← r.required "constraint" format.text?
    let name ← r.required "name" format.text?
    return .var separator constraint name
  | _ => none

/-- Reads a token inside `level` containers. -/
def decodeToken? (level : Nat) (v : Value) : Option RoutePatterns.Token :=
  match format.view v with
  | .table members => do
    let kinds := members.filter fun m => m.1 == "kind"
    let others := members.filter fun m => m.1 != "kind"
    guard (others.all fun m => canKeep (level + 1) m.2)
    match kinds with
    | [(_, kind)] => tokenOfMembers? (← format.text? kind) others
    | _ => none
  | .list (kind :: items) => do
    guard (items.all (canKeep (level + 1)))
    tokenOfItems? (← format.text? kind) items
  | _ => none

/-- Writes a token. -/
def encodeToken : RoutePatterns.Token → Value
  | .text content => .ofMembers [("kind", .ofString "text"), ("content", .ofString content)]
  | .var separator constraint name =>
    .ofMembers [
      ("kind", .ofString "variable"),
      ("separator", match separator with
        | none => .null
        | some c => .ofString (String.singleton c)),
      ("constraint", .ofString constraint),
      ("name", .ofString name)]

/-! ### Routes -/

/-- Reads a route. -/
def decodeRoute? (v : Value) : Option Route := do
  let r ← format.record? ["static_prefix", "path_regex", "path_tokens", "path_variables",
    "optional_variables", "host_regex", "host_tokens", "host_variables", "variables"] v
  let tokens := format.list? (decodeToken? 2)
  let names := format.list? format.text?
  return {
    staticPrefix := ← r.required "static_prefix" format.text?
    pathRegex := ← r.required "path_regex" format.text?
    pathTokens := ← r.required "path_tokens" tokens
    pathVariables := ← r.required "path_variables" names
    optionalVariables := ← r.required "optional_variables" names
    hostRegex := ← r.required "host_regex" format.text?
    hostTokens := ← r.required "host_tokens" tokens
    hostVariables := ← r.required "host_variables" names
    allVariables := ← r.required "variables" names }

/-- Writes a route. -/
def encodeRoute (r : Route) : Value :=
  .ofMembers [
    ("static_prefix", .ofString r.staticPrefix),
    ("path_regex", .ofString r.pathRegex),
    ("path_tokens", .array (r.pathTokens.map encodeToken)),
    ("path_variables", .ofStrings r.pathVariables),
    ("optional_variables", .ofStrings r.optionalVariables),
    ("host_regex", .ofString r.hostRegex),
    ("host_tokens", .array (r.hostTokens.map encodeToken)),
    ("host_variables", .ofStrings r.hostVariables),
    ("variables", .ofStrings r.allVariables)]

/-! ### Patterns and configurations -/

/-- Writes a map from names to texts. -/
def encodeBindings (b : Bindings) : Value :=
  .ofMembers (b.entries.map fun e => (e.1, .ofString e.2))

/-- Reads a pattern. -/
def decodePattern? (v : Value) : Option Pattern := do
  let r ← format.record? ["host", "path", "where"] v
  return {
    host := ← r.withDefault "host" "" format.text?
    path := ← r.required "path" format.text?
    overrides := ← r.withDefault "where" .empty format.bindings? }

/-- Writes a pattern. -/
def encodePattern (p : Pattern) : Value :=
  .ofMembers [("host", .ofString p.host), ("path", .ofString p.path),
    ("where", encodeBindings p.overrides)]

/-- Writes a route of a configuration. -/
def encodeEntry (e : RouteEntry) : Value :=
  .ofMembers [
    ("name", .ofString e.name),
    ("host", match e.host with
      | none => .null
      | some host => .ofString host),
    ("path", .ofString e.path),
    ("where", encodeBindings e.overrides)]

/-- Writes a configuration. -/
def encodeConfig (c : Config) : Value :=
  .ofMembers [
    ("observability", .ofMembers [("log_level", .ofString c.logLevel)]),
    ("routes", .array (c.routes.map encodeEntry))]

/-! ### Texts -/

/-- A type with a JSON form. -/
class Coded (α : Type) where
  /-- Writes a value. -/
  encode : α → Value
  /-- Reads a value. -/
  decode? : Value → Option α

instance : Coded RoutePatterns.Token := ⟨encodeToken, decodeToken? 0⟩

instance : Coded Route := ⟨encodeRoute, decodeRoute?⟩

instance : Coded Pattern := ⟨encodePattern, decodePattern?⟩

instance : Coded Config := ⟨encodeConfig, Config.decode? format⟩

/-- The value of a type that a text denotes. -/
def decodeText? (α : Type) [Coded α] (s : String) : Option α := do
  let v ← Value.read? s
  Coded.decode? v

/-- A value as text without blanks. -/
def compactText {α : Type} [Coded α] (x : α) : String := (Coded.encode x).compact

/-- A value as text with one item or member per line. -/
def prettyText {α : Type} [Coded α] (x : α) : String := (Coded.encode x).pretty

end Json

end RoutePatterns
