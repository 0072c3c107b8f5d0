import RoutePatterns.Regex.Expr
import RoutePatterns.Unicode.Utf8

/-!
# The size of an expression

An expression is run by an automaton over bytes, which reads texts from their ends. `Expr.size`
estimates the memory that the automaton takes: a part that is repeated counts as often as it is
repeated, and a set of characters counts by the sequences of bytes that it is made of, which share
their first bytes. An expression whose automaton is too large is refused.
-/

namespace RoutePatterns

namespace Regex

/-! ### Sets of characters -/

namespace LetterClass

/-- The ranges of a class. -/
def ranges : LetterClass → CodeSet
  | digit => Unicode.decimalNumber
  | space => Unicode.whiteSpace
  | word => Unicode.word

/-- The ranges of the ASCII characters of a class. -/
def asciiRanges : LetterClass → CodeSet
  | digit => AsciiClass.digit.ranges
  | space => AsciiClass.space.ranges
  | word => AsciiClass.word.ranges

end LetterClass

/-- The characters that differ in case alone from one of a set. -/
def caseVariants (s : CodeSet) : CodeSet :=
  (Unicode.caseOrbits.filter fun group => group.any s.hasCode).flatten.map fun n => (n, n)

/-- The ASCII letters that differ in case alone from one of a set. -/
def asciiCaseVariants (s : CodeSet) : CodeSet :=
  ((List.range 128).filter fun n => s.hasCode (Unicode.asciiOtherCase (Char.ofNat n)).toNat).map
    fun n => (n, n)

/-- The ranges of a set, in order and with gaps between them. -/
def CharSet.ranges : CharSet → CodeSet
  | empty => []
  | any => [(0, CodeSet.maxCode)]
  | range low high => [(low.toNat, high.toNat)]
  | codes s => s.normalize
  | letter l => l.ranges.normalize
  | asciiLetter l => l.asciiRanges
  | complement s => s.ranges.complement
  | union s t => (s.ranges ++ t.ranges).normalize
  | intersection s t => s.ranges.intersection t.ranges
  | difference s t => s.ranges.difference t.ranges
  | symmetricDifference s t =>
    (s.ranges.difference t.ranges ++ t.ranges.difference s.ranges).normalize
  | folded s => (s.ranges ++ caseVariants s.ranges).normalize
  | asciiFolded s => (s.ranges ++ asciiCaseVariants s.ranges).normalize

/-! ### Automata -/

/-- The memory of a state. -/
def stateSize : Nat := 32

/-- The memory of a transition by a range of bytes that shares its state with others. -/
def transitionSize : Nat := 8

/-- The memory of a transition without a byte. -/
def branchSize : Nat := 4

/-- The number of states that sequences take, one for each byte range but for those that a sequence
shares with the beginning of the one before it. -/
def sequenceStates {α : Type} [DecidableEq α] (previous : List α) : List (List α) → Nat
  | [] => 0
  | s :: rest => unshared previous s + sequenceStates s rest
where
  /-- The number of items after the common beginning of two lists. -/
  unshared : List α → List α → Nat
    | a :: as, b :: bs => if a = b then unshared as bs else (b :: bs).length
    | _, bs => bs.length

/-- The size of a set that is given by its ranges. -/
def rangesSize (s : CodeSet) : Nat :=
  if s.all fun r => r.2 < 128 then 2 * stateSize + transitionSize * s.length
  else
    let sequences := s.flatMap Unicode.byteRanges
    2 * stateSize + branchSize * sequences.length + stateSize * sequenceStates [] sequences

/-- The size of a set of characters. A single character takes one state for each of its bytes. -/
def CharSet.size (s : CharSet) : Nat :=
  match s.ranges with
  | [(low, high)] =>
    if low = high then stateSize * (Char.ofNat low).utf8Size else rangesSize [(low, high)]
  | ranges => rangesSize ranges

namespace Expr

/-- The expression matches nothing but the empty text. -/
def isWidthless : Expr → Bool
  | empty => true
  | one _ => false
  | look _ => true
  | cat a b => a.isWidthless && b.isWidthless
  | alt a b => a.isWidthless && b.isWidthless
  | repetition _ max _ e => max == some 0 || e.isWidthless
  | capture _ e => e.isWidthless

/-- The size of a part of size `n` that is repeated. -/
def repeatedSize (min : Nat) (max : Option Nat) (n : Nat) : Nat :=
  match max with
  | some max => min * n + (max - min) * (n + stateSize + 2 * branchSize) + stateSize
  | none => Nat.max min 1 * n + 3 * stateSize

/-- The size of an expression. A part that matches nothing but the empty text is not repeated. -/
def size : Expr → Nat
  | empty => stateSize
  | one s => s.size
  | look _ => stateSize
  | cat a b => a.size + b.size
  | alt a b => a.size + b.size + branchSize
  | repetition min max _ e =>
    if e.isWidthless then e.size + 3 * stateSize else repeatedSize min max e.size
  | capture _ e => e.size + 2 * stateSize

end Expr

/-- The greatest size. -/
def maxSize : Nat := 10 * 1024 * 1024

end Regex

end RoutePatterns
