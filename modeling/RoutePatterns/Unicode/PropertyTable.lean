import RoutePatterns.Unicode.CodeSet

/-!
# Tables of character properties

A `PropertyTable` lists properties with their names and with the ranges of their characters, which
are packed into lines of text: code points in hexadecimal, with a hyphen between the first and the
last one of a range and a space between two ranges. `PropertyTable.find?` unpacks the set of a name.
-/

namespace RoutePatterns

namespace Unicode

/-- Properties with their names and packed ranges. -/
abbrev PropertyTable := List (List String × List String)

/-- The value of a hexadecimal digit in upper case. -/
def packedDigit (c : Char) : Nat := if c.isDigit then c.toNat - 48 else c.toNat - 55

/-- The number that is written in hexadecimal digits. -/
def packedNumber (cs : List Char) : Nat := cs.foldl (fun n c => n * 16 + packedDigit c) 0

/-- The range of a word. -/
def packedRange (cs : List Char) : Nat × Nat :=
  let first := packedNumber (cs.takeWhile (· != '-'))
  match cs.dropWhile (· != '-') with
  | _ :: last => (first, packedNumber last)
  | [] => (first, first)

/-- The ranges of a text that comes after the characters of `word`, which are in reverse. -/
def packedRanges (word : List Char) : List Char → CodeSet
  | [] => if word.isEmpty then [] else [packedRange word.reverse]
  | c :: cs =>
    if c == ' ' then packedRange word.reverse :: packedRanges [] cs else packedRanges (c :: word) cs

/-- The set that is packed into lines. -/
def unpack (lines : List String) : CodeSet := lines.flatMap fun line => packedRanges [] line.toList

namespace PropertyTable

/-- The set of the first property with a name. -/
def find? (table : PropertyTable) (name : String) : Option CodeSet :=
  (List.find? (fun entry => entry.1.contains name) table).map fun entry => unpack entry.2

/-- The characters of all properties whose first name satisfies a condition. -/
def collect (table : PropertyTable) (p : String → Bool) : CodeSet :=
  (List.filter (fun entry => p (entry.1.headD "")) table).flatMap fun entry => unpack entry.2

end PropertyTable

end Unicode

end RoutePatterns
