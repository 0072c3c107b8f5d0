import RoutePatterns.Data.Format
import RoutePatterns.Pattern.Basic

/-!
# Configurations of route tables

A configuration lists the routes of a table, each with a name and the pattern it is compiled from,
and says how much is logged. `Config.decode?` reads it from a value of any data format.
-/

namespace RoutePatterns

/-- The log level of a configuration that sets none. -/
def defaultLogLevel : String := "info"

/-- A route of a configuration. -/
structure RouteEntry where
  /-- The name of the route. -/
  name : String
  /-- The host; missing if the route is for every host. -/
  host : Option String := none
  /-- The path. -/
  path : String
  /-- Expressions for the values of variables, by name. -/
  overrides : Bindings := .empty
deriving DecidableEq, Inhabited

/-- The configuration of a route table. -/
structure Config where
  /-- The log level. -/
  logLevel : String := defaultLogLevel
  /-- The routes in their order. -/
  routes : List RouteEntry := []
deriving DecidableEq, Inhabited

/-- The pattern of a route; a missing host is an empty one. -/
def RouteEntry.pattern (e : RouteEntry) : Pattern := ⟨e.host.getD "", e.path, e.overrides⟩

variable {α : Type}

/-- Reads a route. -/
def RouteEntry.decode? (f : Data.Format α) (v : α) : Option RouteEntry := do
  let r ← f.record? ["name", "host", "path", "where"] v
  return {
    name := ← r.required "name" f.text?
    host := ← r.withDefault "host" none f.nullableText?
    path := ← r.required "path" f.text?
    overrides := ← r.withDefault "where" .empty f.bindings? }

/-- Reads the settings of the log. -/
def Config.decodeLogLevel? (f : Data.Format α) (v : α) : Option String := do
  let r ← f.record? ["log_level"] v
  r.withDefault "log_level" defaultLogLevel f.text?

/-- Reads a configuration. -/
def Config.decode? (f : Data.Format α) (v : α) : Option Config := do
  let r ← f.record? ["observability", "routes"] v
  return {
    logLevel := ← r.withDefault "observability" defaultLogLevel (Config.decodeLogLevel? f)
    routes := ← r.withDefault "routes" [] (f.list? (RouteEntry.decode? f)) }

end RoutePatterns
