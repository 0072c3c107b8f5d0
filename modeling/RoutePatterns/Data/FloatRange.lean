/-!
# The size of a decimal number

A number may be written with any exponent. `inRange` tells whether its nearest binary floating-point
number of 64 bits is finite, which a reader that keeps the number has to know.
-/

namespace RoutePatterns

namespace Data

/-- The value of a run of decimal digits; other characters are passed over. -/
def digitsValue (cs : List Char) : Nat :=
  (cs.filter Char.isDigit).foldl (fun n c => n * 10 + (c.toNat - '0'.toNat)) 0

/-- The exponent that is written after its letter. -/
def writtenExponent (cs : List Char) : Int :=
  if cs.head? = some '-' then -(digitsValue cs : Int) else digitsValue cs

/-- Half a unit above the greatest finite number of 64 bits: from here on numbers round to
infinity. -/
def overflowBound : Nat := Nat.pow 2 1024 - Nat.pow 2 970

/-- The number is smaller than `overflowBound` in absolute value. -/
def inRange (literal : String) : Bool :=
  let cs := literal.toList
  let mantissa := cs.takeWhile fun c => c != 'e' && c != 'E'
  let exponent := writtenExponent ((cs.dropWhile fun c => c != 'e' && c != 'E').drop 1)
  let fraction := ((mantissa.dropWhile (· != '.')).drop 1).length
  let digits := digitsValue mantissa
  let scale := exponent - fraction
  let places := (Nat.toDigits 10 digits).length
  -- The number is less than ten to this power, and no less than a tenth of it.
  let magnitude := scale + places
  if digits = 0 || magnitude < 309 then true
  else if magnitude > 309 then false
  else if scale ≥ 0 then digits * Nat.pow 10 scale.toNat < overflowBound
  else digits < overflowBound * Nat.pow 10 (-scale).toNat

end Data

end RoutePatterns
