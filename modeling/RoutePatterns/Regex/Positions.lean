import RoutePatterns.Regex.Expr

/-!
# Matching by sets of positions

A position in a text of `n` characters is a number up to `n`, and a set of positions is a natural
number whose bits it is. `Expr.move` is the map of an expression on sets of positions, from those at
which a match may begin to those at which it may end; it is applied to all of them at once, so the
time does not grow with the number of ways to match. `Expr.found` tells whether the expression
matches anywhere in a text.
-/

namespace RoutePatterns

namespace Regex

/-- A set of positions, one bit for each. -/
abbrev Positions := Nat

/-- The position `0` if `b`. -/
def Positions.bit (b : Bool) : Positions := if b then 1 else 0

/-- The positions before the characters of a set. -/
def charPositions (s : CharSet) : List Char → Positions
  | [] => 0
  | c :: cs => Positions.bit (s.contains c) + 2 * charPositions s cs

/-- The positions at which a condition holds, in a text that comes after `before`. -/
def lookPositions (l : Look) (before : Option Char) : List Char → Positions
  | [] => Positions.bit (l.holds before none)
  | c :: cs => Positions.bit (l.holds before (some c)) + 2 * lookPositions l (some c) cs

/-- All positions of a text of `n` characters. -/
def allPositions (n : Nat) : Positions := Nat.pow 2 (n + 1) - 1

/-- A step, taken exactly `n` times. -/
def steps (step : Positions → Positions) : Nat → Positions → Positions
  | 0, p => p
  | n + 1, p => steps step n (step p)

/-- A step, taken at most `n` times. -/
def stepsUpTo (step : Positions → Positions) : Nat → Positions → Positions
  | 0, p => p
  | n + 1, p => let q := p ||| step p; if q = p then p else stepsUpTo step n q

/-- A map on sets of positions. -/
structure Move where
  apply : Positions → Positions

namespace Move

/-- Nothing. -/
def stay : Move := ⟨fun p => p⟩

/-- One character, at the positions of `before`. -/
def past (before : Positions) : Move := ⟨fun p => (p &&& before) <<< 1⟩

/-- Nothing, at the positions of `here`. -/
def only (here : Positions) : Move := ⟨fun p => p &&& here⟩

/-- One map and then another one. -/
def andThen (f g : Move) : Move := ⟨fun p => g.apply (f.apply p)⟩

/-- One map or another one. -/
def orElse (f g : Move) : Move := ⟨fun p => f.apply p ||| g.apply p⟩

/-- A map at least `min` times and then at most `more` times. -/
def between (min more : Nat) (f : Move) : Move :=
  ⟨fun p => stepsUpTo f.apply more (steps f.apply min p)⟩

end Move

namespace Expr

/-- The map from the positions of the text `cs` at which a match may begin to those at which it may
end. Nothing is repeated more often than there are positions: a longer run does not reach any
further. -/
def move (cs : List Char) : Expr → Move
  | empty => .stay
  | one s => .past (charPositions s cs)
  | look l => .only (lookPositions l none cs)
  | cat a b => (a.move cs).andThen (b.move cs)
  | alt a b => (a.move cs).orElse (b.move cs)
  | repetition min max _ e =>
    let bound := cs.length + 1
    let more := match max with
      | none => bound
      | some max => Nat.min (max - min) bound
    (e.move cs).between (Nat.min min bound) more
  | capture _ e => e.move cs

/-- The positions of the text `cs` at which a match may end that begins at one of `p`. -/
def reach (cs : List Char) (e : Expr) (p : Positions) : Positions := (e.move cs).apply p

/-- The expression matches somewhere in the text. -/
def found (e : Expr) (cs : List Char) : Bool := e.reach cs (allPositions cs.length) != 0

end Expr

end Regex

end RoutePatterns
