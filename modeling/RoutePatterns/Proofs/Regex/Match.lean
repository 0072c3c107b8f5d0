import Mathlib.Data.Nat.Bitwise
import RoutePatterns.Regex.Positions
import RoutePatterns.Regex.Runs

/-!
# What a regular expression matches

`Expr.Match cs e p q` says that `e` matches the part of the text `cs` between the positions `p` and
`q`. It is the plain meaning of an expression, without an order of choices and without a bound on
repetitions. Sets of positions reach exactly the ends of matches (`Expr.testBit_reach`), so
`Expr.found` decides whether there is a match (`Expr.found_iff`).

A repetition is cut off when an expression is run. The reason that this loses nothing is `Times.pad`: a chain
of steps with more steps than positions stays somewhere, and the step that stays can be left out or
be repeated.
-/

namespace RoutePatterns

namespace Regex

/-! ### Chains of steps -/

/-- A relation between positions, taken `n` times. -/
def Times (R : Nat → Nat → Prop) : Nat → Nat → Nat → Prop
  | 0, p, q => p = q
  | n + 1, p, q => ∃ m, R p m ∧ Times R n m q

/-- A relation between the positions of a text with `L` characters that never goes back. -/
structure Forward (L : Nat) (R : Nat → Nat → Prop) : Prop where
  le : ∀ {p q}, R p q → p ≤ q
  le_length : ∀ {p q}, R p q → p < q → q ≤ L

namespace Times

variable {R : Nat → Nat → Prop} {L : Nat}

theorem add_iff {m n p q : Nat} :
    Times R (m + n) p q ↔ ∃ i, Times R m p i ∧ Times R n i q := by
  induction m generalizing p with
  | zero => simp [Times]
  | succ m ih =>
    rw [Nat.succ_add]
    simp only [Times, ih]
    constructor
    · rintro ⟨j, hj, i, hi, hn⟩
      exact ⟨i, ⟨j, hj, hi⟩, hn⟩
    · rintro ⟨i, ⟨j, hj, hi⟩, hn⟩
      exact ⟨j, hj, i, hi, hn⟩

theorem le (hR : ∀ {p q}, R p q → p ≤ q) {n p q : Nat} (h : Times R n p q) : p ≤ q := by
  induction n generalizing p with
  | zero => exact Nat.le_of_eq h
  | succ n ih =>
    obtain ⟨m, hm, h⟩ := h
    exact (hR hm).trans (ih h)

theorem forward (hR : Forward L R) (n : Nat) : Forward L (Times R n) := by
  induction n with
  | zero =>
    refine ⟨fun h => Nat.le_of_eq h, fun h hlt => ?_⟩
    exact absurd h (Nat.ne_of_lt hlt)
  | succ n ih =>
    refine ⟨le hR.le, fun ⟨m, hm, h⟩ hlt => ?_⟩
    rcases Nat.eq_or_lt_of_le (ih.le h) with rfl | hmq
    · exact hR.le_length hm hlt
    · exact ih.le_length h hmq

/-- A step from a position to itself can be taken any number of times. -/
theorem stay {p : Nat} (h : R p p) (n : Nat) : Times R n p p := by
  induction n with
  | zero => rfl
  | succ n ih => exact ⟨p, h, ih⟩

/-- **A chain advances with every step, or a step that stays can be left out or repeated.** -/
theorem pad (hR : Forward L R) {n p q : Nat} (h : Times R n p q) :
    p + n ≤ q ∨ ∀ m, n ≤ m + 1 → Times R m p q := by
  induction n generalizing p with
  | zero => exact .inl (Nat.le_of_eq h)
  | succ n ih =>
    obtain ⟨i, hi, h⟩ := h
    -- The first step stays, so it pads the chain, or it advances, and the rest decides.
    rcases Nat.eq_or_lt_of_le (hR.le hi) with rfl | hlt
    · refine .inr fun m hm => ?_
      obtain ⟨k, rfl⟩ : ∃ k, m = k + n := ⟨m - n, by omega⟩
      exact add_iff.2 ⟨p, stay hi k, h⟩
    · rcases ih h with hle | hpad
      · exact .inl (by omega)
      · cases n with
        | zero => exact .inl (by rw [← show i = q from h]; omega)
        | succ n =>
          refine .inr fun m hm => ?_
          obtain ⟨k, rfl⟩ : ∃ k, m = k + 1 := ⟨m - 1, by omega⟩
          exact ⟨i, hi, hpad k (by omega)⟩

/-- Beyond the number of positions, the number of steps does not matter. -/
theorem of_length_le (hR : Forward L R) {n p q : Nat} (hn : L < n) (h : Times R n p q) {m : Nat}
    (hm : L ≤ m) : Times R m p q := by
  induction n with
  | zero => omega
  | succ n ih =>
    rcases pad hR h with hle | hpad
    · have := (forward hR _).le_length h (by omega)
      omega
    · rcases Nat.lt_or_ge L n with hlt | hge
      · exact ih hlt (hpad n (by omega))
      · exact hpad m (by omega)

/-- The most steps that a repetition takes beyond its least number: those that `max` leaves, and no
more than there are positions. -/
def most (L min : Nat) : Option Nat → Nat
  | none => L + 1
  | some max => Nat.min (max - min) (L + 1)

theorem most_le {min k : Nat} {max : Option Nat} (hk : k ≤ most L min max) :
    ∀ m ∈ max, k ≤ m - min := by
  rintro m rfl
  exact hk.trans (Nat.min_le_left _ _)

theorem le_most {min k : Nat} {max : Option Nat} (hk : ∀ m ∈ max, k ≤ m - min) (hL : k ≤ L + 1) :
    k ≤ most L min max := by
  cases max with
  | none => exact hL
  | some m => exact Nat.le_min.2 ⟨hk m rfl, hL⟩

/-- A repetition may be cut off at the number of positions, both its least number of steps and those
beyond it. -/
theorem exists_most_iff (hR : Forward L R) (min : Nat) (max : Option Nat) {p q : Nat} :
    (∃ k ≤ most L min max, Times R (Nat.min min (L + 1) + k) p q) ↔
      ∃ k, (∀ m ∈ max, k ≤ m - min) ∧ Times R (min + k) p q := by
  rcases Nat.le_total min (L + 1) with hmin | hmin
  · rw [show Nat.min min (L + 1) = min from Nat.min_eq_left hmin]
    constructor
    · rintro ⟨k, hk, h⟩
      exact ⟨k, most_le hk, h⟩
    · rintro ⟨k, hk, h⟩
      rcases Nat.le_total k (L + 1) with hkL | hkL
      · exact ⟨k, le_most hk hkL, h⟩
      · refine ⟨L + 1, le_most (fun m hm => hkL.trans (hk m hm)) (Nat.le_refl _), ?_⟩
        exact of_length_le hR (by omega) h (by omega)
  · rw [show Nat.min min (L + 1) = L + 1 from Nat.min_eq_right hmin]
    constructor
    · rintro ⟨k, hk, h⟩
      exact ⟨0, fun _ _ => Nat.zero_le _, of_length_le hR (by omega) h (by omega)⟩
    · rintro ⟨k, hk, h⟩
      exact ⟨0, Nat.zero_le _, of_length_le hR (by omega) h (by omega)⟩

/-- A chain can be shifted along with the relation of its steps. -/
theorem shift_iff {R' : Nat → Nat → Prop} {a : Nat} (hR' : ∀ {p q}, R' p q → p ≤ q)
    (h : ∀ {p q}, q ≤ L → (R' (a + p) (a + q) ↔ R p q)) (hR : ∀ {p q}, R p q → p ≤ q) {n p q : Nat}
    (hq : q ≤ L) : Times R' n (a + p) (a + q) ↔ Times R n p q := by
  induction n generalizing p with
  | zero => simp [Times]
  | succ n ih =>
    constructor
    · rintro ⟨m, hm, ht⟩
      obtain ⟨k, rfl⟩ : ∃ k, m = a + k := ⟨m - a, by have := hR' hm; omega⟩
      have := ht.le hR'
      exact ⟨k, (h (by omega)).1 hm, ih.1 ht⟩
    · rintro ⟨m, hm, ht⟩
      have := ht.le hR
      exact ⟨a + m, (h (by omega)).2 hm, ih.2 ht⟩

end Times

/-! ### Matches -/

namespace Expr

/-- The expression matches the part of the text `cs` between two positions. -/
def Match (cs : List Char) : Expr → Nat → Nat → Prop
  | empty, p, q => p = q
  | one s, p, q => q = p + 1 ∧ cs[p]?.any s.contains
  | look l, p, q => p = q ∧ p ≤ cs.length ∧ l.holdsAt cs p
  | cat a b, p, q => ∃ m, a.Match cs p m ∧ b.Match cs m q
  | alt a b, p, q => a.Match cs p q ∨ b.Match cs p q
  | repetition min max _ e, p, q =>
    ∃ k, (∀ m ∈ max, k ≤ m - min) ∧ Times (e.Match cs) (min + k) p q
  | capture _ e, p, q => e.Match cs p q

variable {cs : List Char} {e : Expr}

theorem forward_match (cs : List Char) (e : Expr) : Forward cs.length (e.Match cs) := by
  induction e with
  | empty => exact ⟨fun h => Nat.le_of_eq h, fun h hlt => absurd h (Nat.ne_of_lt hlt)⟩
  | one s =>
    refine ⟨fun h => by have := h.1; omega, fun {p q} h _ => ?_⟩
    obtain ⟨rfl, h⟩ := h
    cases hc : cs[p]? with
    | none => simp [hc] at h
    | some c => exact (List.getElem?_eq_some_iff.1 hc).1
  | look l => exact ⟨fun h => Nat.le_of_eq h.1, fun h hlt => absurd h.1 (Nat.ne_of_lt hlt)⟩
  | cat a b iha ihb =>
    refine ⟨fun ⟨m, ha, hb⟩ => (iha.le ha).trans (ihb.le hb), fun ⟨m, ha, hb⟩ hlt => ?_⟩
    rcases Nat.eq_or_lt_of_le (ihb.le hb) with rfl | hmq
    · exact iha.le_length ha hlt
    · exact ihb.le_length hb hmq
  | alt a b iha ihb =>
    exact ⟨fun h => h.elim iha.le ihb.le, fun h hlt => h.elim (iha.le_length · hlt)
      (ihb.le_length · hlt)⟩
  | repetition min max greedy e ih =>
    exact ⟨fun ⟨k, _, h⟩ => (Times.forward ih _).le h,
      fun ⟨k, _, h⟩ hlt => (Times.forward ih _).le_length h hlt⟩
  | capture name e ih => exact ⟨fun h => ih.le h, fun h hlt => ih.le_length h hlt⟩

theorem Match.le {p q : Nat} (h : e.Match cs p q) : p ≤ q := (forward_match cs e).le h

theorem Match.le_length {p q : Nat} (h : e.Match cs p q) (hp : p ≤ cs.length) :
    q ≤ cs.length := by
  rcases Nat.eq_or_lt_of_le h.le with rfl | hlt
  · exact hp
  · exact (forward_match cs e).le_length h hlt

end Expr

/-! ### Sets of positions -/

theorem Positions.testBit_bit_add_zero (b : Bool) (n : Nat) :
    (Positions.bit b + 2 * n).testBit 0 = b := by
  cases b <;> simp [Positions.bit, Nat.testBit_zero]

theorem Positions.testBit_bit_add_succ (b : Bool) (n p : Nat) :
    (Positions.bit b + 2 * n).testBit (p + 1) = n.testBit p := by
  rw [Nat.testBit_succ]
  congr 1
  cases b <;> simp only [Positions.bit, if_true, if_false, Bool.false_eq_true] <;> omega

theorem testBit_charPositions (s : CharSet) (cs : List Char) (p : Nat) :
    (charPositions s cs).testBit p = cs[p]?.any s.contains := by
  induction cs generalizing p with
  | nil => simp [charPositions]
  | cons c cs ih =>
    cases p with
    | zero => exact Positions.testBit_bit_add_zero _ _
    | succ p => exact (Positions.testBit_bit_add_succ _ _ _).trans (ih p)

theorem testBit_lookPositions (l : Look) (before : Option Char) (cs : List Char) (p : Nat) :
    (lookPositions l before cs).testBit p =
      (decide (p ≤ cs.length) && l.holds (if p = 0 then before else cs[p - 1]?) cs[p]?) := by
  induction cs generalizing before p with
  | nil =>
    cases p with
    | zero =>
      simp only [lookPositions]
      simpa using Positions.testBit_bit_add_zero (l.holds before none) 0
    | succ p =>
      simp only [lookPositions]
      simpa using Positions.testBit_bit_add_succ (l.holds before none) 0 p
  | cons c cs ih =>
    cases p with
    | zero =>
      rw [lookPositions, Positions.testBit_bit_add_zero]
      simp
    | succ p =>
      rw [lookPositions, Positions.testBit_bit_add_succ, ih]
      cases p with
      | zero => simp
      | succ p => simp

section Steps

variable {f : Positions → Positions} {R : Nat → Nat → Prop}

theorem testBit_steps (hf : ∀ P q, (f P).testBit q = true ↔ ∃ p, P.testBit p = true ∧ R p q)
    (n : Nat) (P : Positions) (q : Nat) :
    (steps f n P).testBit q = true ↔ ∃ p, P.testBit p = true ∧ Times R n p q := by
  induction n generalizing P with
  | zero => simp [steps, Times]
  | succ n ih =>
    simp only [steps, ih, hf, Times]
    constructor
    · rintro ⟨m, ⟨p, hp, hm⟩, h⟩
      exact ⟨p, hp, m, hm, h⟩
    · rintro ⟨p, hp, m, hm, h⟩
      exact ⟨m, ⟨p, hp, hm⟩, h⟩

/-- The positions that are reached in at most `n` steps. If a step adds none, no further step does,
which is why the search may stop there. -/
theorem testBit_stepsUpTo (hf : ∀ P q, (f P).testBit q = true ↔ ∃ p, P.testBit p = true ∧ R p q)
    (n : Nat) (P : Positions) (q : Nat) :
    (stepsUpTo f n P).testBit q = true ↔ ∃ k ≤ n, ∃ p, P.testBit p = true ∧ Times R k p q := by
  induction n generalizing P with
  | zero => simp [stepsUpTo, Times]
  | succ n ih =>
    rw [stepsUpTo]
    have hor (q : Nat) : (P ||| f P).testBit q = true ↔
        P.testBit q = true ∨ ∃ p, P.testBit p = true ∧ R p q := by
      rw [Nat.testBit_or, Bool.or_eq_true, hf]
    split
    · -- The set is closed under steps, so chains of any length stay in it.
      next hfix =>
      have hclosed {p q : Nat} (hp : P.testBit p = true) (h : R p q) : P.testBit q = true := by
        rw [← hfix]
        exact (hor q).2 (.inr ⟨p, hp, h⟩)
      have hchain {k p q : Nat} (hp : P.testBit p = true) (h : Times R k p q) :
          P.testBit q = true := by
        induction k generalizing p with
        | zero => exact (show p = q from h) ▸ hp
        | succ k ih =>
          obtain ⟨m, hm, h⟩ := h
          exact ih (hclosed hp hm) h
      exact ⟨fun h => ⟨0, Nat.zero_le _, q, h, rfl⟩, fun ⟨k, _, p, hp, h⟩ => hchain hp h⟩
    · rw [ih]
      constructor
      · rintro ⟨k, hk, p, hp, h⟩
        rcases (hor p).1 hp with hp | ⟨p', hp', hstep⟩
        · exact ⟨k, by omega, p, hp, h⟩
        · exact ⟨k + 1, by omega, p', hp', p, hstep, h⟩
      · rintro ⟨k, hk, p, hp, h⟩
        cases k with
        | zero => exact ⟨0, Nat.zero_le _, p, (hor p).2 (.inl hp), h⟩
        | succ k =>
          obtain ⟨m, hm, h⟩ := h
          exact ⟨k, by omega, m, (hor m).2 (.inr ⟨p, hp, hm⟩), h⟩

end Steps

namespace Expr

variable {cs : List Char} {e : Expr}

/-- **Sets of positions reach the ends of the matches that begin at one of them.** -/
theorem testBit_reach (cs : List Char) (e : Expr) (P : Positions) (q : Nat) :
    (e.reach cs P).testBit q = true ↔ ∃ p, P.testBit p = true ∧ e.Match cs p q := by
  induction e generalizing P q with
  | empty => simp [reach, move, Move.stay, Match]
  | one s =>
    simp only [reach, move, Move.past, Match, Nat.testBit_shiftLeft, Nat.testBit_and,
      testBit_charPositions, Bool.and_eq_true, decide_eq_true_eq]
    constructor
    · rintro ⟨hq, hP, hc⟩
      exact ⟨q - 1, hP, by omega, hc⟩
    · rintro ⟨p, hP, rfl, hc⟩
      exact ⟨by omega, by simpa using hP, by simpa using hc⟩
  | look l =>
    simp only [reach, move, Move.only, Match, Nat.testBit_and, testBit_lookPositions,
      Bool.and_eq_true, decide_eq_true_eq, Look.holdsAt]
    constructor
    · rintro ⟨hP, hq, hl⟩
      exact ⟨q, hP, rfl, hq, hl⟩
    · rintro ⟨p, hP, rfl, hq, hl⟩
      exact ⟨hP, hq, hl⟩
  | cat a b iha ihb =>
    refine (ihb (a.reach cs P) q).trans ?_
    simp only [iha, Match]
    constructor
    · rintro ⟨m, ⟨p, hp, ha⟩, hb⟩
      exact ⟨p, hp, m, ha, hb⟩
    · rintro ⟨p, hp, m, ha, hb⟩
      exact ⟨m, ⟨p, hp, ha⟩, hb⟩
  | alt a b iha ihb =>
    have : ((alt a b).reach cs P).testBit q = ((a.reach cs P).testBit q || (b.reach cs P).testBit q) :=
      Nat.testBit_or _ _ _
    simp only [this, Bool.or_eq_true, iha, ihb, Match, and_or_left, exists_or]
  | repetition min max greedy e ih =>
    have hsteps := testBit_steps (f := (e.move cs).apply) ih
    have hmost (p : Nat) := Times.exists_most_iff (forward_match cs e) min max (p := p) (q := q)
    -- First the least number of steps, then up to as many as may follow.
    refine (testBit_stepsUpTo (f := (e.move cs).apply) ih _ _ q).trans ?_
    constructor
    · rintro ⟨k, hk, i, hi, h'⟩
      obtain ⟨p, hp, h⟩ := (hsteps _ _ _).1 hi
      exact ⟨p, hp, (hmost p).1 ⟨k, by cases max <;> exact hk, Times.add_iff.2 ⟨i, h, h'⟩⟩⟩
    · rintro ⟨p, hp, h⟩
      obtain ⟨k, hk, h⟩ := (hmost p).2 h
      obtain ⟨i, h, h'⟩ := Times.add_iff.1 h
      exact ⟨k, by cases max <;> exact hk, i, (hsteps _ _ _).2 ⟨p, hp, h⟩, h'⟩
  | capture name e ih => exact ih P q

/-- **Search by sets of positions finds a match exactly if there is one.** -/
theorem found_iff : e.found cs = true ↔ ∃ p q, p ≤ cs.length ∧ e.Match cs p q := by
  have hall (p : Nat) : (allPositions cs.length).testBit p = true ↔ p ≤ cs.length := by
    rw [allPositions, Nat.pow_eq, Nat.testBit_two_pow_sub_one, decide_eq_true_eq]
    omega
  have hne (n : Nat) : (n != 0) = true ↔ ∃ q, n.testBit q = true := by
    refine bne_iff_ne.trans ⟨Nat.exists_testBit_of_ne_zero, ?_⟩
    rintro ⟨q, hq⟩ rfl
    simp at hq
  rw [found, hne]
  simp only [testBit_reach, hall]
  exact exists_comm

end Expr

end Regex

end RoutePatterns
