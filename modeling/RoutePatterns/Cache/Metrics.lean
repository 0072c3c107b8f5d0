import RoutePatterns.Cache.Basic

/-!
# Metrics of the cache

`Metrics` counts what requests to the cache came to. `Metrics.readings` lists what has been recorded
under the names by which it is published: a counter that was never raised and a gauge that was never
set do not appear.
-/

namespace RoutePatterns

/-- What has been recorded. -/
structure Metrics where
  /-- How many patterns were compiled. -/
  compilations : Nat := 0
  /-- How many artifacts were found in the cache. -/
  hits : Nat := 0
  /-- The size of the cache when it last changed. -/
  cacheSize : Option Nat := none
  /-- How many patterns were rejected for a leading digit. -/
  leadingDigits : Nat := 0
  /-- How many patterns were rejected for a repeated name. -/
  repeatedNames : Nat := 0
  /-- How many patterns were rejected for a long name. -/
  longNames : Nat := 0
deriving DecidableEq, Repr, Inhabited

namespace Metrics

/-- Counts a rejected pattern. -/
def recordError (m : Metrics) : PatternError → Metrics
  | .leadingDigit .. => { m with leadingDigits := m.leadingDigits + 1 }
  | .repeatedName .. => { m with repeatedNames := m.repeatedNames + 1 }
  | .longName .. => { m with longNames := m.longNames + 1 }

/-- Records a request to the cache. -/
def record (m : Metrics) : Access → Metrics
  | .hit _ => { m with hits := m.hits + 1 }
  | .compiled _ size => { m with compilations := m.compilations + 1, cacheSize := some size }
  | .rejected e => m.recordError e

/-- Records several requests in their order. -/
def recordAll (m : Metrics) (accesses : List Access) : Metrics := accesses.foldl record m

/-- Records that the cache was cleared. -/
def recordClear (m : Metrics) : Metrics := { m with cacheSize := some 0 }

/-- How many patterns were rejected. -/
def errors (m : Metrics) : Nat := m.leadingDigits + m.repeatedNames + m.longNames

/-- The name of the counter of rejected patterns with a label. -/
def errorCounter (label : String) : String :=
  "route_compile_errors_total\x7bkind=" ++ label ++ "\x7d"

/-- A counter that was raised. -/
def counter (name : String) (n : Nat) : List (String × Nat) := if n = 0 then [] else [(name, n)]

/-- What has been recorded, by name. -/
def readings (m : Metrics) : List (String × Nat) :=
  counter "route_compilations_total" m.compilations ++
    counter "route_cache_hits_total" m.hits ++
    (m.cacheSize.toList.map fun n => ("route_cache_size", n)) ++
    counter (errorCounter (PatternError.label (.leadingDigit "" ""))) m.leadingDigits ++
    counter (errorCounter (PatternError.label (.repeatedName "" ""))) m.repeatedNames ++
    counter (errorCounter (PatternError.label (.longName "" ""))) m.longNames

end Metrics

end RoutePatterns
