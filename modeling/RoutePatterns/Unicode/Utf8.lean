import RoutePatterns.Unicode.CodeSet

/-!
# Ranges of characters in UTF-8

`byteRanges` splits a range of code points into sequences of byte ranges: a character lies in the
range exactly if its bytes in UTF-8 lie in the ranges of one of the sequences. The sequences are in
the order of their characters.
-/

namespace RoutePatterns

namespace Unicode

/-- Any byte that continues a character. -/
def continuation : Nat × Nat := (0x80, 0xBF)

/-- The sequences for the numbers from `low` up to `high`, which are written by a byte counted from
`mark` and `k` bytes that continue it. -/
def byteRangesFrom (mark : Nat) : Nat → Nat → Nat → List (List (Nat × Nat))
  | 0, low, high => [[(mark + low, mark + high)]]
  | k + 1, low, high =>
    let unit := Nat.pow 64 (k + 1)
    let below (lead low high : Nat) : List (List (Nat × Nat)) :=
      (byteRangesFrom 0x80 k low high).map fun s => (mark + lead, mark + lead) :: s
    let between (first last : Nat) : List (List (Nat × Nat)) :=
      if first ≤ last then [(mark + first, mark + last) :: List.replicate (k + 1) continuation]
      else []
    let first := low / unit
    let last := high / unit
    if first = last ∧ ¬(low % unit = 0 ∧ high % unit = unit - 1) then
      below first (low % unit) (high % unit)
    else
      let startsWhole := low % unit = 0
      let endsWhole := high % unit = unit - 1
      (if startsWhole then [] else below first (low % unit) (unit - 1)) ++
        between (if startsWhole then first else first + 1) (if endsWhole then last else last - 1) ++
        (if endsWhole then [] else below last 0 (high % unit))

/-- The code points that are written with the same number of bytes: the first and the last one, the
mark of the first byte, and the number of bytes that continue it. Between the third and the fourth
line are the surrogates, which are no characters. -/
def byteForms : List (Nat × Nat × Nat × Nat) := [
  (0, 0x7F, 0, 0),
  (0x80, 0x7FF, 0xC0, 1),
  (0x800, 0xD7FF, 0xE0, 2),
  (0xE000, 0xFFFF, 0xE0, 2),
  (0x10000, 0x10FFFF, 0xF0, 3)]

/-- The sequences of byte ranges for a range of code points. -/
def byteRanges (r : Nat × Nat) : List (List (Nat × Nat)) :=
  byteForms.flatMap fun (first, last, mark, k) =>
    let low := max r.1 first
    let high := min r.2 last
    if low ≤ high then byteRangesFrom mark k low high else []

end Unicode

end RoutePatterns
