import RoutePatterns.Route.Compile

/-!
# The cache of compiled routes

A `Cache` keeps the artifact of every pattern that was compiled since it was last cleared. An
artifact is a compiled route with a serial number, so that two artifacts are the very same one
exactly if their numbers agree. `Cache.getOrCompile` looks a pattern up and, if it is not there,
compiles and stores it; a pattern that is rejected is never stored.
-/

namespace RoutePatterns

/-- A compiled route that may be shared. -/
structure Artifact where
  /-- The number of the artifact; no two artifacts of a cache have the same. -/
  serial : Nat
  /-- The compiled route. -/
  route : Route
deriving DecidableEq, Repr, Inhabited

/-- The artifacts of the patterns that were compiled. -/
structure Cache where
  /-- The patterns with their artifacts, in the order in which they were stored. -/
  entries : List (Pattern × Artifact) := []
  /-- The number that the next artifact gets. -/
  nextSerial : Nat := 0

/-- What a request to the cache came to. -/
inductive Access where
  /-- The artifact was there. -/
  | hit (a : Artifact)
  /-- The pattern was compiled, and the cache has `size` entries since. -/
  | compiled (a : Artifact) (size : Nat)
  /-- The pattern was rejected. -/
  | rejected (e : PatternError)
deriving DecidableEq, Repr

namespace Access

/-- The artifact, or why there is none. -/
def result : Access → Except PatternError Artifact
  | hit a => .ok a
  | compiled a _ => .ok a
  | rejected e => .error e

/-- The artifact, if there is one. -/
def artifact? : Access → Option Artifact
  | hit a => some a
  | compiled a _ => some a
  | rejected _ => none

/-- The reason of a rejection. -/
def error? : Access → Option PatternError
  | rejected e => some e
  | _ => none

end Access

namespace Cache

/-- The cache before its first use. -/
def empty : Cache := {}

/-- The number of entries. -/
def size (c : Cache) : Nat := c.entries.length

/-- There is no entry. -/
def isEmpty (c : Cache) : Bool := c.entries.isEmpty

/-- The artifact of a pattern. -/
def find? (c : Cache) (p : Pattern) : Option Artifact := c.entries.lookup p

/-- Stores a compiled route under a pattern, unless the pattern has an artifact already, and gives
the artifact that the pattern has in the end. -/
def insertIfAbsent (c : Cache) (p : Pattern) (r : Route) : Artifact × Cache :=
  match c.find? p with
  | some a => (a, c)
  | none =>
    let a : Artifact := ⟨c.nextSerial, r⟩
    (a, ⟨c.entries ++ [(p, a)], c.nextSerial + 1⟩)

/-- Drops all entries. The numbers of their artifacts are not used again. -/
def clear (c : Cache) : Cache := { c with entries := [] }

/-- The artifact of a pattern, which is compiled if the cache does not hold it. -/
def getOrCompile (c : Cache) (p : Pattern) : Access × Cache :=
  match c.find? p with
  | some a => (.hit a, c)
  | none =>
    match compile p with
    | .error e => (.rejected e, c)
    | .ok r =>
      let (a, c) := c.insertIfAbsent p r
      (.compiled a c.size, c)

/-- The artifacts of several patterns, one after the other. -/
def getAll (c : Cache) : List Pattern → List Access × Cache
  | [] => ([], c)
  | p :: ps =>
    let (access, c) := c.getOrCompile p
    let (accesses, c) := c.getAll ps
    (access :: accesses, c)

@[simp] theorem find?_empty (p : Pattern) : empty.find? p = none := rfl

@[simp] theorem find?_clear (c : Cache) (p : Pattern) : c.clear.find? p = none := rfl

/-- Storing gives the artifact that the pattern has afterwards. -/
theorem find?_insertIfAbsent_self (c : Cache) (p : Pattern) (r : Route) :
    (c.insertIfAbsent p r).2.find? p = some (c.insertIfAbsent p r).1 := by
  unfold insertIfAbsent
  split
  · assumption
  · rename_i h
    simp only [find?] at h ⊢
    simp [List.lookup_append, h]

/-- Storing does not change what other patterns have. -/
theorem find?_insertIfAbsent_of_ne (c : Cache) {p q : Pattern} (r : Route) (h : q ≠ p) :
    (c.insertIfAbsent p r).2.find? q = c.find? q := by
  unfold insertIfAbsent
  split
  · rfl
  · have hq : (q == p) = false := by simpa using h
    simp [find?, List.lookup_append, List.lookup_cons, hq]

/-- An artifact that is there is kept. -/
theorem insertIfAbsent_of_find? {c : Cache} {p : Pattern} {a : Artifact} (h : c.find? p = some a)
    (r : Route) : c.insertIfAbsent p r = (a, c) := by
  simp [insertIfAbsent, h]

end Cache

end RoutePatterns
