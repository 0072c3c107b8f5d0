import RoutePatterns.Unicode.BinaryProperty
import RoutePatterns.Unicode.Category

/-!
# Printable characters

`isPrintable` holds of the characters that show a glyph of their own: not of controls, formats,
separators other than the space, unassigned and private characters, and not of those that extend the
character before them.
-/

namespace RoutePatterns

namespace Unicode

/-- The characters that show nothing, the space among them. -/
def invisible : CodeSet := categories ["cc", "cf", "cn", "co", "zl", "zp", "zs"]

/-- A character that shows a glyph of its own, or the space. -/
def isPrintable (c : Char) : Bool :=
  if c.toNat < 128 then decide (32 ≤ c.toNat ∧ c.toNat < 127)
  else !invisible.contains c && !graphemeExtend.contains c

end Unicode

end RoutePatterns
