import RoutePatterns.Unicode.CodeSet

/-!
# Blank characters

`isBlank` is the property White_Space. A text of blanks only is no name (`isBlankText`).
-/

namespace RoutePatterns

namespace Unicode

/-- Characters with the property White_Space. -/
def whiteSpace : CodeSet :=
  [(0x9, 0xD), (0x20, 0x20), (0x85, 0x85), (0xA0, 0xA0), (0x1680, 0x1680), (0x2000, 0x200A),
    (0x2028, 0x2029), (0x202F, 0x202F), (0x205F, 0x205F), (0x3000, 0x3000)]

/-- A character with the property White_Space. -/
def isBlank (c : Char) : Bool := whiteSpace.contains c

/-- A text without any character other than blanks. -/
def isBlankText (s : String) : Bool := s.toList.all isBlank

/-- Core's white space is blank. -/
theorem isBlank_of_isWhitespace {c : Char} (h : c.isWhitespace = true) : isBlank c = true := by
  simp only [Char.isWhitespace, Bool.or_eq_true, decide_eq_true_eq] at h
  rcases h with ((h | h) | h) | h <;> subst h <;> rfl

end Unicode

end RoutePatterns
