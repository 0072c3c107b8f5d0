import RoutePatterns.Cache.Basic
import RoutePatterns.Log.Level
import RoutePatterns.Log.Quoted

/-!
# Events of the log

An `Event` says what happened in some part of the program, with fields that say on what. This module
lists the events that there are; `Event.text` is what is written.
-/

namespace RoutePatterns

namespace Log

/-- Something that happened. -/
structure Event where
  severity : Severity
  /-- The part of the program that it happened in. -/
  target : String
  message : String
  /-- Names and written values. -/
  fields : List (String × String) := []
deriving DecidableEq, Repr

namespace Event

/-- The text of an event. -/
def text (e : Event) : String :=
  e.severity.label ++ " " ++ e.target ++ ": " ++ e.message ++
    String.join (e.fields.map fun f => " " ++ f.1 ++ "=" ++ f.2)

/-- An event has a field; the message is one of them. -/
def hasField (e : Event) (name : String) : Bool :=
  name == "message" || e.fields.any fun f => f.1 == name

/-- A configuration was read. -/
def configLoaded (file : String) (routes : Nat) : Event where
  severity := .info
  target := "route_compiler"
  message := "Route table loaded"
  fields := [("path", file), ("routes", toString routes)]

/-- A pattern was compiled. -/
def patternCompiled (p : Pattern) (r : Route) : Event where
  severity := .debug
  target := "route_compiler::routing::compiler"
  message := "Compiled route pattern"
  fields := [("host", p.host), ("path", p.path), ("path_regex", r.pathRegex),
    ("host_regex", r.hostRegex), ("variables", toString r.allVariables.length)]

/-- A pattern was rejected. -/
def patternRejected (p : Pattern) (e : PatternError) : Event where
  severity := .warn
  target := "route_compiler::routing::compiler"
  message := "Rejected route pattern"
  fields := [("host", p.host), ("path", p.path), ("variable", quoted e.name),
    ("error", e.message)]

/-- A table was built. -/
def tableBuilt (routes cached : Nat) : Event where
  severity := .info
  target := "route_compiler::routing::table"
  message := "Route table compiled"
  fields := [("routes", toString routes), ("cached", toString cached)]

/-- A file begins to be watched. -/
def watchStarted (file : String) : Event where
  severity := .info
  target := "route_compiler::config::watcher"
  message := "Route table watcher started"
  fields := [("path", quoted file)]

/-- A watched file was changed. -/
def fileChanged : Event where
  severity := .info
  target := "route_compiler::config::watcher"
  message := "Route table change detected, reloading..."

/-- A table was replaced by that of its file. -/
def reloaded (routes : Nat) : Event where
  severity := .info
  target := "route_compiler::config::watcher"
  message := "Route table reloaded"
  fields := [("routes", toString routes)]

/-- A table could not be replaced. -/
def reloadFailed (reason : String) : Event where
  severity := .error
  target := "route_compiler::config::watcher"
  message := "Failed to reload route table: " ++ reason ++ ". Keeping current routes."

/-- A pattern was compiled or rejected. -/
def ofCompilation (p : Pattern) : Except PatternError Route → Event
  | .ok r => patternCompiled p r
  | .error e => patternRejected p e

/-- What a request to the cache for a pattern came to; an artifact that was there is no event. -/
def ofAccess? (p : Pattern) : Access → Option Event
  | .hit _ => none
  | .compiled a _ => some (patternCompiled p a.route)
  | .rejected e => some (patternRejected p e)

end Event

end Log

end RoutePatterns
