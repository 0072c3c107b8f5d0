import RoutePatterns.Log.Filter
import RoutePatterns.Table.Load

/-!
# What a command comes to

An `Outcome` holds the exit code, what is printed, and what is noted beside it: events of the log,
and lines that say what is wrong. The reason for which a command fails is written in one line, with
the fields of the reason by name.
-/

namespace RoutePatterns

namespace CommandLine

/-- A note beside what is printed. -/
inductive Note where
  /-- An event of the log. -/
  | event (e : Log.Event)
  /-- A line. -/
  | line (text : String)
deriving DecidableEq, Repr

/-- A table that is built again whenever its file changes. -/
structure Watch where
  file : String
  filter : Log.Filter
  table : Table
  cache : Cache

/-- What a command comes to. -/
structure Outcome where
  /-- The exit code. -/
  code : Nat := 0
  /-- What is printed. -/
  output : String := ""
  /-- What is noted, in order. -/
  notes : List Note := []
  /-- The command goes on and watches a file. -/
  watch : Option Watch := none

/-- The events that pass a filter, as notes. -/
def logged (filter : Log.Filter) (events : List Log.Event) : List Note :=
  (events.filter filter.allows).map .event

/-- Lines of a text, each with a line break. -/
def unlines (lines : List String) : String := String.join (lines.map fun line => line ++ "\n")

/-! ### Reasons -/

/-- A reason with its fields. -/
def reason (name : String) (fields : List (String × String)) : String :=
  name ++ " \x7b " ++ ", ".intercalate (fields.map fun f => f.1 ++ ": " ++ f.2) ++ " \x7d"

/-- Why a pattern is rejected. -/
def patternReason (e : PatternError) : String :=
  let fields := [("pattern", Log.quoted e.pattern), ("name", Log.quoted e.name)]
  match e with
  | .leadingDigit .. => reason "InvalidVariableName" fields
  | .repeatedName .. => reason "DuplicateVariableName" fields
  | .longName .. => reason "VariableNameTooLong" (fields ++ [("max", toString maxNameLength)])

/-- Why a file cannot be read. -/
def fileReason (e : FileError) : String :=
  let fields := [("kind", e.label), ("message", Log.quoted e.text)]
  match e.systemCode? with
  | some code => reason "Os" (("code", toString code) :: fields)
  | none => reason "Error" fields

/-- Why a configuration cannot be loaded. -/
def loadReason : LoadError → String
  | .file e => "Io(" ++ fileReason e ++ ")"
  | .parse => "Parse"
  | .validation _ => "Validation"

/-- A command that fails for a reason, after some notes. -/
def Outcome.failure (notes : List Note) (reason : String) : Outcome where
  code := 1
  notes := notes ++ [.line ("Error: " ++ reason)]

end CommandLine

end RoutePatterns
