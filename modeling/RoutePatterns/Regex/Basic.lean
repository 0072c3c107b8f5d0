import RoutePatterns.Regex.Limit
import RoutePatterns.Regex.Positions
import RoutePatterns.Regex.Reader
import RoutePatterns.Regex.Resolve
import RoutePatterns.Regex.Size

/-!
# Regular expressions in use

`Regex.ofText?` reads a regular expression that is correct and within the limits, and
`Regex.isMatch` searches a text for it.
-/

namespace RoutePatterns

/-- A regular expression that is ready for use. -/
structure Regex where
  /-- What it matches. -/
  expr : Regex.Expr
deriving DecidableEq, Repr, Inhabited

namespace Regex

/-- The expression that a text denotes, whatever its size. -/
def exprOfText? (s : String) : Option Expr := do
  let e ← Syntax.read? s
  e.resolve?

/-- The regular expression that a text denotes. -/
def ofText? (s : String) : Option Regex := do
  let e ← Syntax.read? s
  guard (e.depth .none ≤ maxDepth)
  let e ← e.resolve?
  guard (e.size ≤ maxSize)
  return ⟨e⟩

/-- The regular expression matches a part of a text. -/
def isMatch (r : Regex) (s : String) : Bool := r.expr.found s.toList

end Regex

end RoutePatterns
