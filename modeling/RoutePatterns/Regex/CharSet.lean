import RoutePatterns.Regex.Syntax
import RoutePatterns.Unicode.CaseFolding
import RoutePatterns.Unicode.CodeSet
import RoutePatterns.Unicode.Blank
import RoutePatterns.Unicode.Word

/-!
# Sets of characters in regular expressions

A `CharSet` is built from ranges and from the classes of Unicode and ASCII by the operations that
character classes offer. `CharSet.contains` decides membership, and every operation means what its
name says: there is one equation for each.
-/

namespace RoutePatterns

namespace Regex

/-- A set of characters. -/
inductive CharSet where
  | empty
  | any
  | range (low high : Char)
  | codes (ranges : CodeSet)
  | letter (c : LetterClass)
  | asciiLetter (c : LetterClass)
  | complement (s : CharSet)
  | union (s t : CharSet)
  | intersection (s t : CharSet)
  | difference (s t : CharSet)
  | symmetricDifference (s t : CharSet)
  /-- All characters that differ from a character of the set in case alone. -/
  | folded (s : CharSet)
  /-- The same, for the letters of ASCII. -/
  | asciiFolded (s : CharSet)
deriving DecidableEq, Repr

namespace LetterClass

/-- A character of the class. -/
def contains : LetterClass → Char → Bool
  | digit, c => Unicode.isDecimal c
  | space, c => Unicode.isBlank c
  | word, c => Unicode.isWord c

/-- A character of ASCII that is in the class. -/
def containsAscii : LetterClass → Char → Bool
  | digit, c => c.isDigit
  | space, c => c.toNat < 128 && Unicode.isBlank c
  | word, c => Unicode.isAsciiWord c

end LetterClass

namespace AsciiClass

/-- The ranges of the class. -/
def ranges : AsciiClass → CodeSet
  | alnum => [(0x30, 0x39), (0x41, 0x5A), (0x61, 0x7A)]
  | alpha => [(0x41, 0x5A), (0x61, 0x7A)]
  | ascii => [(0x00, 0x7F)]
  | blank => [(0x09, 0x09), (0x20, 0x20)]
  | cntrl => [(0x00, 0x1F), (0x7F, 0x7F)]
  | digit => [(0x30, 0x39)]
  | graph => [(0x21, 0x7E)]
  | lower => [(0x61, 0x7A)]
  | print => [(0x20, 0x7E)]
  | punct => [(0x21, 0x2F), (0x3A, 0x40), (0x5B, 0x60), (0x7B, 0x7E)]
  | space => [(0x09, 0x0D), (0x20, 0x20)]
  | upper => [(0x41, 0x5A)]
  | word => [(0x30, 0x39), (0x41, 0x5A), (0x5F, 0x5F), (0x61, 0x7A)]
  | xdigit => [(0x30, 0x39), (0x41, 0x46), (0x61, 0x66)]

end AsciiClass

namespace CharSet

/-- A character of the set. -/
def contains : CharSet → Char → Bool
  | empty, _ => false
  | any, _ => true
  | range low high, c => decide (low ≤ c) && decide (c ≤ high)
  | codes ranges, c => ranges.contains c
  | letter l, c => l.contains c
  | asciiLetter l, c => l.containsAscii c
  | complement s, c => !s.contains c
  | union s t, c => s.contains c || t.contains c
  | intersection s t, c => s.contains c && t.contains c
  | difference s t, c => s.contains c && !t.contains c
  | symmetricDifference s t, c => s.contains c != t.contains c
  | folded s, c => s.contains c || (Unicode.caseOrbit c).any fun d => s.contains d
  | asciiFolded s, c => s.contains c || s.contains (Unicode.asciiOtherCase c)

/-- The set of one character. -/
def single (c : Char) : CharSet := range c c

/-- The characters of a list. -/
def ofList : List Char → CharSet
  | [] => empty
  | c :: cs => union (single c) (ofList cs)

/-- No character from code point 128 up to 255 is in the set. -/
def isAscii (s : CharSet) : Bool :=
  (List.range 128).all fun n => !s.contains (Char.ofNat (n + 128))

@[simp] theorem contains_single {c d : Char} : (single c).contains d = decide (d = c) := by
  simp only [single, contains, ← Bool.decide_and, decide_eq_decide]
  exact ⟨fun h => Char.le_antisymm h.2 h.1, fun h => h ▸ ⟨Char.le_refl _, Char.le_refl _⟩⟩

@[simp] theorem contains_ofList {cs : List Char} {c : Char} :
    (ofList cs).contains c = decide (c ∈ cs) := by
  induction cs with
  | nil => simp [ofList, contains]
  | cons d cs ih => simp [ofList, contains, ih]

end CharSet

end Regex

end RoutePatterns
