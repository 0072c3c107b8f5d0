import RoutePatterns.Unicode.Alphabetic
import RoutePatterns.Unicode.Mark
import RoutePatterns.Unicode.Number

/-!
# Word characters

`isWord` is the word class of Unicode regular expressions: letters, marks, decimal digits, connector
punctuation and the two join controls. A placeholder name is a run of word characters. Characters
below 128 are decided without a table, which `isWord_of_lt` states.
-/

namespace RoutePatterns

namespace Unicode

/-- Characters of the general category Connector_Punctuation. -/
def connectorPunctuation : CodeSet :=
  [(0x5F, 0x5F), (0x203F, 0x2040), (0x2054, 0x2054), (0xFE33, 0xFE34), (0xFE4D, 0xFE4F),
    (0xFF3F, 0xFF3F)]

/-- Characters with the property Join_Control. -/
def joinControl : CodeSet := [(0x200C, 0x200D)]

/-- The word characters, as one set. -/
def word : CodeSet := alphabetic ++ mark ++ decimalNumber ++ connectorPunctuation ++ joinControl

/-- A letter, digit or underscore of ASCII. -/
def isAsciiWord (c : Char) : Bool := c.isAlphanum || c == '_'

/-- A word character. -/
def isWord (c : Char) : Bool := if c.toNat < 128 then isAsciiWord c else word.contains c

/-- An alphabetic character. -/
def isAlphabetic (c : Char) : Bool := if c.toNat < 128 then c.isAlpha else alphabetic.contains c

/-- A decimal digit of any script. -/
def isDecimal (c : Char) : Bool := if c.toNat < 128 then c.isDigit else decimalNumber.contains c

/-- An alphabetic character or a number of any kind. -/
def isAlphanumeric (c : Char) : Bool :=
  isAlphabetic c || isDecimal c || letterNumber.contains c || otherNumber.contains c

/-- Below 128 the word characters are those of ASCII. -/
theorem isWord_of_lt {c : Char} (h : c.toNat < 128) : isWord c = isAsciiWord c := if_pos h

@[simp] theorem isWord_openBrace : isWord '\x7b' = false := rfl

@[simp] theorem isWord_closeBrace : isWord '\x7d' = false := rfl

@[simp] theorem isWord_questionMark : isWord '?' = false := rfl

end Unicode

end RoutePatterns
