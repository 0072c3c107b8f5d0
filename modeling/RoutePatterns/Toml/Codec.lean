import RoutePatterns.Table.Config
import RoutePatterns.Toml.Document

/-!
# Configurations in TOML

`Config.ofToml?` reads the configuration of a route table from a TOML document.
-/

namespace RoutePatterns

namespace Toml

/-- The key under which a date is seen by a decoder that wants a table. -/
def datetimeKey : String := "$__toml_private_datetime"

/-- TOML as a data format: records written as arrays may go on after their last field. A date or
time is seen as a table with its text. -/
def format : Data.Format Value where
  view
    | .string s => .text s
    | .array items => .list items
    | .table members => .table members
    | .datetime text => .table [(datetimeKey, .string text)]
    | _ => .other
  allowsExcess := true

end Toml

/-- The configuration that a TOML document denotes. -/
def Config.ofToml? (s : String) : Option Config := do
  let v ← Toml.Value.read? s
  Config.decode? Toml.format v

end RoutePatterns
