import RoutePatterns.Regex.Expr
import RoutePatterns.Regex.Syntax

/-!
# Limits

An expression may be correct and still be refused because it is nested too deeply.
-/

namespace RoutePatterns

namespace Regex

namespace ClassSyntax

/-- How deep a class is nested. The parts of a union lie on one level; `inUnion` if that level has
been counted. -/
def depth (inUnion : Bool) : ClassSyntax → Nat
  | bracket _ inner => inner.depth false + 1
  | union a b => max (a.depth false) (b.depth true) + if inUnion then 0 else 1
  | operation _ a b => max (a.depth false) (b.depth false) + 1
  | _ => 0

end ClassSyntax

/-- The chain that an expression continues. -/
inductive Chain where
  | none
  | cat
  | alt
deriving DecidableEq, Repr

namespace Syntax

/-- How deep an expression is nested. The parts of a chain lie on one level. -/
def depth (chain : Chain) : Syntax → Nat
  | set (.bracket negated inner) => (ClassSyntax.bracket negated inner).depth false
  | group _ e => e.depth .none + 1
  | repetition _ _ _ e => e.depth .none + 1
  | cat a b => max (a.depth .none) (b.depth .cat) + if chain = .cat then 0 else 1
  | alt a b => max (a.depth .none) (b.depth .alt) + if chain = .alt then 0 else 1
  | _ => 0

end Syntax

/-- The greatest depth of nesting. -/
def maxDepth : Nat := 250

end Regex

end RoutePatterns
