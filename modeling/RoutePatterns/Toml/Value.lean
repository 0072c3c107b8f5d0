/-!
# TOML values

A `Value` is what stands on the right of an equals sign. While a document is read, its tables are
`Node`s: they remember how they came about, because that decides whether they may still be added
to. `Members.addPair`, `Members.openTable` and `Members.openArray` add what a line of the document
says, and refuse whatever would define something twice.
-/

namespace RoutePatterns

namespace Toml

/-- A TOML value. -/
inductive Value where
  | string (s : String)
  | integer (n : Int)
  | float (literal : String)
  | boolean (b : Bool)
  /-- A date, a time or both, in its normal form. -/
  | datetime (text : String)
  | array (items : List Value)
  | table (members : List (String × Value))
deriving Repr, Inhabited

/-- How a table came about. -/
inductive Origin where
  /-- It has a header of its own. -/
  | header
  /-- A longer header implies it. -/
  | implied
  /-- A dotted key implies it. -/
  | dotted
deriving DecidableEq, Repr

/-- A value of a document that is being read. -/
inductive Node where
  /-- A value that cannot be added to. -/
  | closed (v : Value)
  /-- A table. -/
  | table (origin : Origin) (members : List (String × Node))
  /-- An array of tables, of which the last one can be added to. -/
  | tables (items : List (List (String × Node)))
deriving Repr

/-- The members of a table that is being read. -/
abbrev Members := List (String × Node)

namespace Members

/-- Puts a node in place of the one that a key has, or after all others. -/
def set (ms : Members) (key : String) (node : Node) : Members :=
  if ms.any fun m => m.1 == key then ms.map fun m => if m.1 == key then (key, node) else m
  else ms ++ [(key, node)]

/-- Changes the table at the end of a path of keys, which starts at a table with the given origin.
Tables that are missing on the way are created; a path of a dotted key does not lead through tables
with a header of their own. -/
def update (dotted : Bool) (change : Origin → Members → Option Members) :
    List String → Origin → Members → Option Members
  | [], origin, ms => change origin ms
  | key :: path, _, ms =>
    match ms.lookup key with
    | none => do
      let origin := if dotted then .dotted else .implied
      let inner ← update dotted change path origin []
      return ms.set key (.table origin inner)
    | some (.table origin inner) => do
      guard !(dotted && origin == .header)
      let inner ← update dotted change path origin inner
      return ms.set key (.table origin inner)
    | some (.tables items) => do
      let last ← items.getLast?
      let last ← update dotted change path .header last
      return ms.set key (.tables (items.dropLast ++ [last]))
    | some (.closed _) => none

/-- Adds the value of a dotted key with the given path before its last part. -/
def addPair (path : List String) (key : String) (v : Value) (origin : Origin) (ms : Members) :
    Option Members :=
  update true (fun origin ms => do
    guard (path.isEmpty || origin == .dotted)
    guard (ms.lookup key).isNone
    return ms.set key (.closed v)) path origin ms

/-- Opens the table of a header with the given path before its last part. -/
def openTable (path : List String) (key : String) (ms : Members) : Option Members :=
  update false (fun _ ms =>
    match ms.lookup key with
    | none => some (ms.set key (.table .header []))
    | some (.table .implied inner) => some (ms.set key (.table .header inner))
    | _ => none) path .header ms

/-- Opens the next table of an array of tables. -/
def openArray (path : List String) (key : String) (ms : Members) : Option Members :=
  update false (fun _ ms =>
    match ms.lookup key with
    | none => some (ms.set key (.tables [[]]))
    | some (.tables items) => some (ms.set key (.tables (items ++ [[]])))
    | _ => none) path .header ms

end Members

namespace Node

mutual

/-- The value of a node. -/
def toValue : Node → Value
  | closed v => v
  | table _ members => .table (membersToValues members)
  | tables items => .array (itemsToValues items)

/-- The values of the members of a table. -/
def membersToValues : List (String × Node) → List (String × Value)
  | [] => []
  | (key, node) :: ms => (key, toValue node) :: membersToValues ms

/-- The values of the tables of an array. -/
def itemsToValues : List (List (String × Node)) → List Value
  | [] => []
  | ms :: items => .table (membersToValues ms) :: itemsToValues items

end

end Node

/-- The value of a finished table. -/
def Members.toValue (ms : Members) : Value := .table (Node.membersToValues ms)

end Toml

end RoutePatterns
