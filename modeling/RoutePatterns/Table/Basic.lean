import RoutePatterns.Table.Validation

/-!
# Route tables

A `Table` lists compiled routes with their names and patterns, in the order of the configuration
that it was built from. A configuration with any problem gives no table at all.
-/

namespace RoutePatterns

/-- A compiled route with its name and pattern. -/
structure NamedRoute where
  name : String
  pattern : Pattern
  artifact : Artifact
deriving DecidableEq, Inhabited

/-- Compiled routes by name. -/
structure Table where
  /-- The routes in their order. -/
  routes : List NamedRoute := []
deriving DecidableEq, Inhabited

namespace Table

/-- The table without routes. -/
def empty : Table := {}

/-- The number of routes. -/
def size (t : Table) : Nat := t.routes.length

/-- There is no route. -/
def isEmpty (t : Table) : Bool := t.routes.isEmpty

/-- The route with a name. -/
def get? (t : Table) (name : String) : Option NamedRoute := t.routes.find? fun r => r.name == name

/-- The table of routes with their artifacts. -/
def ofEntries (entries : List RouteEntry) (artifacts : List Artifact) : Table :=
  ⟨entries.zipWith (fun e a => ⟨e.name, e.pattern, a⟩) artifacts⟩

end Table

/-- A table that was built, or why there is none, with what that did to the cache. -/
structure TableBuild where
  result : Except (List ValidationError) Table
  accesses : List Access
  cache : Cache

/-- Builds the table of a configuration. -/
def Table.ofConfig (c : Config) (cache : Cache) : TableBuild :=
  let v := validate c cache
  ⟨v.result.map (Table.ofEntries c.routes), v.accesses, v.cache⟩

end RoutePatterns
