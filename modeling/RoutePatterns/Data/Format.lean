import RoutePatterns.Bindings

/-!
# Reading records from data formats

JSON and TOML values differ, but a decoder looks at either in the same way: as a text, a list, a
table or something else. A `Format` gives that view of its values. A record may be written as a
table, in which unknown keys are ignored and a known key stands once, or as the list of its fields
in their order, of which the last ones may be missing.
-/

namespace RoutePatterns

namespace Data

/-- What a decoder sees of a value. -/
inductive View (α : Type) where
  | text (s : String)
  | list (items : List α)
  | table (members : List (String × α))
  | null
  | other

/-- A data format. -/
structure Format (α : Type) where
  /-- What is seen of a value. -/
  view : α → View α
  /-- A record written as a list may go on after its last field. -/
  allowsExcess : Bool

/-- The fields of a record by name, those that are missing being `none`. -/
abbrev Record (α : Type) := String → Option α

namespace Format

variable {α : Type} (f : Format α)

/-- A text. -/
def text? (v : α) : Option String :=
  match f.view v with
  | .text s => some s
  | _ => none

/-- A list whose items are read by `item?`. -/
def list? {β : Type} (item? : α → Option β) (v : α) : Option (List β) :=
  match f.view v with
  | .list items => items.mapM item?
  | _ => none

/-- A map from names to texts; of a repeated name the last text counts. -/
def bindings? (v : α) : Option Bindings :=
  match f.view v with
  | .table members => do
    let pairs ← members.mapM fun m => (f.text? m.2).map fun s => (m.1, s)
    return Bindings.ofList pairs
  | _ => none

/-- A text, or nothing at all. -/
def nullableText? (v : α) : Option (Option String) :=
  match f.view v with
  | .text s => some (some s)
  | .null => some none
  | _ => none

/-- The members of a table as a record: each of the given names stands at most once. -/
def ofMembers? (names : List String) (members : List (String × α)) : Option (Record α) :=
  if names.all fun name => members.countP (fun m => m.1 == name) ≤ 1 then
    some fun name => if name ∈ names then members.lookup name else none
  else none

/-- The items of a list as a record. -/
def ofItems? (names : List String) (items : List α) : Option (Record α) :=
  if items.length ≤ names.length || f.allowsExcess then
    some fun name => (names.zip items).lookup name
  else none

/-- A record with the given names of fields. -/
def record? (names : List String) (v : α) : Option (Record α) :=
  match f.view v with
  | .table members => ofMembers? names members
  | .list items => f.ofItems? names items
  | _ => none

end Format

namespace Record

variable {α β : Type} (r : Record α)

/-- A field that has to be there. -/
def required (name : String) (read : α → Option β) : Option β := r name >>= read

/-- A field that has a value when it is missing. -/
def withDefault (name : String) (missing : β) (read : α → Option β) : Option β :=
  match r name with
  | none => some missing
  | some v => read v

end Record

end Data

end RoutePatterns
