import RoutePatterns.Data.FloatRange
import RoutePatterns.Toml.Value

/-!
# Numbers, dates and times of TOML

Each reader splits a scalar off the front of a text and gives the rest, or refuses the text.
-/

namespace RoutePatterns

namespace Toml

/-! ### Digits -/

/-- Digits with single underscores between them, of which `afterDigit` tells that one came
before. -/
def digitsFrom (p : Char → Bool) (afterDigit : Bool) :
    List Char → Option (List Char × List Char)
  | [] => if afterDigit then some ([], []) else none
  | c :: cs =>
    if p c then (digitsFrom p true cs).map fun r => (c :: r.1, r.2)
    else if c == '_' && afterDigit then digitsFrom p false cs
    else if afterDigit then some ([], c :: cs)
    else none

/-- One or more digits with single underscores between them. -/
def digits? (p : Char → Bool) (cs : List Char) : Option (List Char × List Char) :=
  digitsFrom p false cs

/-- The value of digits to a base. -/
def digitsValue (base : Nat) (digits : List Char) : Nat :=
  digits.foldl (fun n c => n * base +
    (if c.isDigit then c.toNat - 48 else c.toLower.toNat - 87)) 0

/-- Splits off a sign. -/
def sign : List Char → List Char × List Char
  | '+' :: cs => (['+'], cs)
  | '-' :: cs => (['-'], cs)
  | cs => ([], cs)

/-- A decimal integer as it is written, without underscores. A leading zero stands alone. -/
def decimal? (cs : List Char) : Option (List Char × List Char) :=
  let (s, cs) := sign cs
  match cs with
  | '0' :: rest => some (s ++ ['0'], rest)
  | cs => (digits? Char.isDigit cs).map fun r => (s ++ r.1, r.2)

/-! ### Integers and floating-point numbers -/

/-- The bound of integers in 64 bits. -/
def int64Bound : Int := Int.ofNat (Nat.pow 2 63)

/-- An integer of 64 bits. -/
def isInt64 (n : Int) : Bool := -int64Bound ≤ n && n < int64Bound

/-- An integer to one of the bases with a letter. -/
def basedInteger? (base : Nat) (p : Char → Bool) (cs : List Char) :
    Option (Value × List Char) := do
  let (digits, rest) ← digits? p cs
  let n : Int := digitsValue base digits
  guard (isInt64 n)
  return (.integer n, rest)

/-- A hexadecimal digit. -/
def isHexDigit (c : Char) : Bool :=
  c.isDigit || ('a' ≤ c && c ≤ 'f') || ('A' ≤ c && c ≤ 'F')

/-- An integer. -/
def integer? (cs : List Char) : Option (Value × List Char) :=
  match cs with
  | '0' :: 'x' :: cs => basedInteger? 16 isHexDigit cs
  | '0' :: 'o' :: cs => basedInteger? 8 (fun c => '0' ≤ c && c ≤ '7') cs
  | '0' :: 'b' :: cs => basedInteger? 2 (fun c => c == '0' || c == '1') cs
  | cs => do
    let (literal, rest) ← decimal? cs
    let (s, digits) := sign literal
    let size : Int := digitsValue 10 digits
    let n := if s = ['-'] then -size else size
    guard (isInt64 n)
    return (.integer n, rest)

/-- An exponent as it is written. -/
def exponent? (cs : List Char) : Option (List Char × List Char) :=
  match cs with
  | c :: cs =>
    if c == 'e' || c == 'E' then
      let (s, cs) := sign cs
      (digits? Char.isDigit cs).map fun r => ('e' :: s ++ r.1, r.2)
    else none
  | [] => none

/-- The fraction and the exponent of a number, at least one of them. -/
def fraction? (cs : List Char) : Option (List Char × List Char) :=
  match cs with
  | '.' :: cs => do
    let (digits, rest) ← digits? Char.isDigit cs
    match rest with
    | 'e' :: _ | 'E' :: _ => do
      let (e, rest) ← exponent? rest
      return ('.' :: digits ++ e, rest)
    | _ => return ('.' :: digits, rest)
  | cs => exponent? cs

/-- A floating-point number; a positive one has to be finite if it is written in digits. -/
def float? (cs : List Char) : Option (Value × List Char) := do
  let (whole, rest) ← decimal? cs
  let (fraction, rest) ← fraction? rest
  let literal := String.ofList (whole ++ fraction)
  guard ((sign whole).1 = ['-'] || Data.inRange literal)
  return (.float literal, rest)

/-- A floating-point number that is not finite. -/
def specialFloat? (cs : List Char) : Option (Value × List Char) :=
  let (s, cs) := sign cs
  match cs with
  | 'i' :: 'n' :: 'f' :: rest => some (.float (String.ofList (s ++ ['i', 'n', 'f'])), rest)
  | 'n' :: 'a' :: 'n' :: rest => some (.float (String.ofList (s ++ ['n', 'a', 'n'])), rest)
  | _ => none

/-! ### Dates and times -/

/-- Exactly `n` digits. -/
def exactDigits? (n : Nat) (cs : List Char) : Option (List Char × List Char) :=
  if (cs.take n).length = n ∧ (cs.take n).all Char.isDigit then some (cs.take n, cs.drop n)
  else none

/-- A number of `n` digits between two bounds. -/
def field? (n low high : Nat) (cs : List Char) : Option (List Char × List Char) := do
  let (digits, rest) ← exactDigits? n cs
  let value := digitsValue 10 digits
  guard (low ≤ value && value ≤ high)
  return (digits, rest)

/-- Splits off a character. -/
def expect? (c : Char) : List Char → Option (List Char)
  | [] => none
  | d :: cs => if c = d then some cs else none

/-- The number of days of a month. -/
def daysInMonth (year month : Nat) : Nat :=
  if month = 2 then
    if year % 4 = 0 ∧ (year % 100 ≠ 0 ∨ year % 400 = 0) then 29 else 28
  else if month = 4 ∨ month = 6 ∨ month = 9 ∨ month = 11 then 30
  else 31

/-- A date. -/
def date? (cs : List Char) : Option (List Char × List Char) := do
  let (year, cs) ← exactDigits? 4 cs
  let (month, cs) ← field? 2 1 12 (← expect? '-' cs)
  let (day, cs) ← field? 2 1 31 (← expect? '-' cs)
  guard (digitsValue 10 day ≤ daysInMonth (digitsValue 10 year) (digitsValue 10 month))
  return (year ++ '-' :: month ++ '-' :: day, cs)

/-- The fraction of a second in nine digits at most, without trailing zeros. -/
def secondFraction (digits : List Char) : List Char :=
  match ((digits.take 9).reverse.dropWhile (· == '0')).reverse with
  | [] => []
  | digits => '.' :: digits

/-- A time of day. -/
def time? (cs : List Char) : Option (List Char × List Char) := do
  let (hour, cs) ← field? 2 0 23 cs
  let (minute, cs) ← field? 2 0 59 (← expect? ':' cs)
  let (second, cs) ← field? 2 0 60 (← expect? ':' cs)
  let whole := hour ++ ':' :: minute ++ ':' :: second
  match cs with
  | '.' :: cs => do
    let digits := cs.takeWhile Char.isDigit
    guard !digits.isEmpty
    return (whole ++ secondFraction digits, cs.dropWhile Char.isDigit)
  | cs => return (whole, cs)

/-- An offset from universal time with the given sign; no offset at all has a plus. -/
def signedOffset? (s : Char) (cs : List Char) : Option (List Char × List Char) := do
  let (hour, cs) ← field? 2 0 23 cs
  let (minute, cs) ← field? 2 0 59 (← expect? ':' cs)
  let s := if digitsValue 10 (hour ++ minute) = 0 then '+' else s
  return (s :: hour ++ ':' :: minute, cs)

/-- An offset from universal time. -/
def offset? (cs : List Char) : Option (List Char × List Char) :=
  match cs with
  | 'Z' :: cs | 'z' :: cs => some (['Z'], cs)
  | '+' :: cs => signedOffset? '+' cs
  | '-' :: cs => signedOffset? '-' cs
  | _ => none

/-- A time of day after a date, with an offset if there is one. -/
def timeAfterDate? (cs : List Char) : Option (List Char × List Char) :=
  match cs with
  | 'T' :: cs | 't' :: cs | ' ' :: cs => do
    let (time, cs) ← time? cs
    match offset? cs with
    | some (offset, cs) => return ('T' :: time ++ offset, cs)
    | none => return ('T' :: time, cs)
  | _ => none

/-- A date, a time or both. -/
def datetime? (cs : List Char) : Option (Value × List Char) :=
  match date? cs with
  | some (date, rest) =>
    let (time, rest) := (timeAfterDate? rest).getD ([], rest)
    some (.datetime (String.ofList (date ++ time)), rest)
  | none => (time? cs).map fun r => (.datetime (String.ofList r.1), r.2)

/-! ### Scalars -/

/-- A boolean. -/
def boolean? (cs : List Char) : Option (Value × List Char) :=
  match cs with
  | 't' :: 'r' :: 'u' :: 'e' :: rest => some (.boolean true, rest)
  | 'f' :: 'a' :: 'l' :: 's' :: 'e' :: rest => some (.boolean false, rest)
  | _ => none

/-- A number, a date, a time or a boolean. -/
def scalar? (cs : List Char) : Option (Value × List Char) :=
  (datetime? cs).or <| (float? cs).or <| (specialFloat? cs).or <| (integer? cs).or (boolean? cs)

end Toml

end RoutePatterns
