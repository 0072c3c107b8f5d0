import RoutePatterns.Unicode.CaseOrbit

/-!
# Characters that differ in case alone

`caseOrbit` lists the characters that a character is equal to under simple case folding, itself
included if there are others.
-/

namespace RoutePatterns

namespace Unicode

/-- The characters with the same simple case folding, if there is more than one. -/
def caseOrbit (c : Char) : List Char :=
  ((caseOrbits.find? fun group => group.contains c.toNat).getD []).map Char.ofNat

/-- The ASCII letter of the other case. -/
def asciiOtherCase (c : Char) : Char := if c.isUpper then c.toLower else c.toUpper

end Unicode

end RoutePatterns
