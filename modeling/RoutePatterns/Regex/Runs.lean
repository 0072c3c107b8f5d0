import RoutePatterns.Bindings
import RoutePatterns.Regex.Basic

/-!
# Ordered matching with captures

Where an expression matches in several ways, the order of its choices says which way counts. A `Run`
is one way: where it ends and what the groups have captured on it. `Expr.runs` lists the runs of an
expression from a position, the preferred one first: an earlier branch before a later one, and one
repetition more before one less if the repetition is greedy. `Regex.captures?` is the preferred run
from the leftmost position that has one.
-/

namespace RoutePatterns

namespace Regex

/-- A way through a part of an expression. -/
structure Run where
  /-- The position that it has come to. -/
  position : Nat
  /-- The names of groups with the positions between which they match, the latest first. -/
  spans : List (String × Nat × Nat) := []
deriving DecidableEq, Repr, Inhabited

namespace Run

/-- The positions between which a group matches, if it takes part in the match. -/
def span? (r : Run) (name : String) : Option (Nat × Nat) := r.spans.lookup name

/-- Keeps the positions between which a group matches. -/
def mark (start : Nat) (name : Option String) (r : Run) : Run :=
  match name with
  | some name => { r with spans := (name, start, r.position) :: r.spans }
  | none => r

end Run

/-- The condition holds at a position of a text. -/
def Look.holdsAt (l : Look) (cs : List Char) (p : Nat) : Bool :=
  l.holds (if p = 0 then none else cs[p - 1]?) cs[p]?

/-- The runs that take a step exactly `n` times. -/
def exactly (step : Run → List Run) : Nat → Run → List Run
  | 0, r => [r]
  | n + 1, r => (step r).flatMap (exactly step n)

/-- The runs that take a step at most `n` times. A step that stays where it is ends the run. -/
def atMost (step : Run → List Run) (greedy : Bool) : Nat → Run → List Run
  | 0, r => [r]
  | n + 1, r =>
    let more := (step r).flatMap fun next =>
      if next.position = r.position then [next] else atMost step greedy n next
    if greedy then more ++ [r] else r :: more

namespace Expr

/-- The runs of an expression on the text `cs`, the preferred one first. A repetition without an end
is taken at most as often as the text has positions, since all steps but the last one advance. -/
def runs (cs : List Char) : Expr → Run → List Run
  | empty, r => [r]
  | one s, r =>
    if cs[r.position]?.any s.contains then [{ r with position := r.position + 1 }] else []
  | look l, r => if l.holdsAt cs r.position then [r] else []
  | cat a b, r => (a.runs cs r).flatMap (b.runs cs)
  | alt a b, r => a.runs cs r ++ b.runs cs r
  | repetition min max greedy e, r =>
    let more := match max with
      | none => cs.length + 1
      | some max => max - min
    (exactly (e.runs cs) min r).flatMap (atMost (e.runs cs) greedy more)
  | capture name e, r => (e.runs cs r).map (Run.mark r.position name)

/-- The preferred run from the leftmost position that has one. -/
def firstRun? (e : Expr) (cs : List Char) : Option Run :=
  (List.range (cs.length + 1)).findSome? fun start => (e.runs cs ⟨start, []⟩).head?

/-- The names of the groups, from left to right. -/
def groupNames : Expr → List String
  | empty | one _ | look _ => []
  | cat a b => a.groupNames ++ b.groupNames
  | alt a b => a.groupNames ++ b.groupNames
  | repetition _ _ _ e => e.groupNames
  | capture name e => name.toList ++ e.groupNames

end Expr

/-- What the groups of an expression capture in a text, if it matches: a look-up by name, in which a
group that takes no part in the match is missing. -/
def Expr.captures? (e : Expr) (s : String) : Option Lookup :=
  (e.firstRun? s.toList).map fun r name =>
    (r.span? name).map fun (first, last) => String.ofList ((s.toList.take last).drop first)

/-- What the groups of a regular expression capture in a text, if it matches. -/
def captures? (r : Regex) (s : String) : Option Lookup := r.expr.captures? s

end Regex

end RoutePatterns
