/-!
# Separators

The characters that stand between the parts of a host or path. One of them directly before a
placeholder belongs to the placeholder, and the one after it bounds the values it takes.
-/

namespace RoutePatterns

/-- The separator characters. -/
def separators : List Char :=
  ['/', ',', ';', '.', ':', '-', '_', '~', '+', '*', '=', '@', '|']

/-- A separator character. -/
def isSeparator (c : Char) : Bool := separators.contains c

theorem isSeparator_iff {c : Char} : isSeparator c = true ↔ c ∈ separators := by
  simp [isSeparator]

end RoutePatterns
