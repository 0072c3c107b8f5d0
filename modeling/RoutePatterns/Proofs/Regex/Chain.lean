import RoutePatterns.Proofs.Regex.LookFree
import RoutePatterns.Proofs.Regex.Runs

/-!
# Chains of expressions

`Expr.ofItems` puts expressions one after the other. This module says what a chain matches and which runs
it has, in terms of its links, and what links of simple kinds match: literal characters
(`Expr.match_literals`) and parts that may be missing (`Expr.match_optional`). `Between` is the part of a
text between two positions.
-/

namespace RoutePatterns

namespace Regex

/-! ### Parts of a text -/

/-- The part of a text between two positions. -/
structure Between (cs : List Char) (p q : Nat) (s : List Char) : Prop where
  le : p ≤ q
  le_length : q ≤ cs.length
  eq : (cs.take q).drop p = s

theorem between_iff {cs s : List Char} {p q : Nat} :
    Between cs p q s ↔
      ∃ before after, cs = before ++ s ++ after ∧ p = before.length ∧ q = p + s.length := by
  constructor
  · rintro ⟨hle, hlength, rfl⟩
    refine ⟨cs.take p, cs.drop q, ?_, by rw [List.length_take]; omega, by simp; omega⟩
    have h := List.take_append_drop p (cs.take q)
    rw [List.take_take, Nat.min_eq_left hle] at h
    rw [h, List.take_append_drop]
  · rintro ⟨before, after, rfl, rfl, rfl⟩
    refine ⟨by omega, by simp, ?_⟩
    rw [← List.length_append, List.take_left, List.drop_left]

namespace Between

variable {cs s t : List Char} {p q m : Nat}

theorem nil (hp : p ≤ cs.length) : Between cs p p [] := ⟨Nat.le_refl p, hp, by simp⟩

theorem append (h : Between cs p m s) (h' : Between cs m q t) : Between cs p q (s ++ t) := by
  obtain ⟨before, after, rfl, rfl, rfl⟩ := between_iff.1 h
  obtain ⟨before', after', heq, hlength, rfl⟩ := between_iff.1 h'
  rw [List.append_assoc before' t] at heq
  obtain ⟨rfl, rfl⟩ := List.append_inj heq (by simpa using hlength)
  exact between_iff.2 ⟨before, after', by simp, rfl, by simp; omega⟩

theorem split (h : Between cs p q (s ++ t)) : ∃ m, Between cs p m s ∧ Between cs m q t := by
  obtain ⟨before, after, rfl, rfl, rfl⟩ := between_iff.1 h
  refine ⟨before.length + s.length, between_iff.2 ⟨before, t ++ after, by simp, rfl, rfl⟩,
    between_iff.2 ⟨before ++ s, after, by simp, by simp, by simp; omega⟩⟩

theorem eq_of_nil (h : Between cs p q []) : p = q := by
  obtain ⟨before, after, rfl, rfl, rfl⟩ := between_iff.1 h
  rfl

/-- The positions of a part are positions of the text. -/
theorem start_le (h : Between cs p q s) : p ≤ cs.length := h.le.trans h.le_length

theorem eq_of_whole (h : Between cs 0 cs.length s) : s = cs := by
  rw [← h.eq, List.take_length, List.drop_zero]

theorem whole (cs : List Char) : Between cs 0 cs.length cs := ⟨Nat.zero_le _, Nat.le_refl _, by simp⟩

end Between

/-! ### Chains -/

/-- The expressions of a list one after the other. -/
def Expr.ofItems : List Expr → Expr
  | [] => .empty
  | [x] => x
  | x :: xs => .cat x (ofItems xs)

/-- A text as an expression for its characters. -/
def literals (s : List Char) : List Expr := s.map fun c => .one (.single c)

namespace Expr

variable {cs : List Char} {x : Expr} {xs ys : List Expr}

theorem match_ofItems_nil {p q : Nat} : (ofItems []).Match cs p q ↔ p = q := Iff.rfl

theorem match_ofItems_cons {p q : Nat} :
    (ofItems (x :: xs)).Match cs p q ↔ ∃ m, x.Match cs p m ∧ (ofItems xs).Match cs m q := by
  cases xs with
  | nil => exact ⟨fun h => ⟨q, h, rfl⟩, fun ⟨m, h, heq⟩ => (show m = q from heq) ▸ h⟩
  | cons y ys => exact Iff.rfl

theorem match_ofItems_append {p q : Nat} :
    (ofItems (xs ++ ys)).Match cs p q ↔
      ∃ m, (ofItems xs).Match cs p m ∧ (ofItems ys).Match cs m q := by
  induction xs generalizing p with
  | nil => exact ⟨fun h => ⟨p, rfl, h⟩, fun ⟨m, heq, h⟩ => (show p = m from heq) ▸ h⟩
  | cons x xs ih =>
    rw [List.cons_append, match_ofItems_cons]
    simp only [match_ofItems_cons, ih]
    constructor
    · rintro ⟨i, hi, m, hm, h⟩
      exact ⟨m, ⟨i, hi, hm⟩, h⟩
    · rintro ⟨m, ⟨i, hi, hm⟩, h⟩
      exact ⟨i, hi, m, hm, h⟩

theorem mem_runs_ofItems_cons {r r' : Run} :
    r' ∈ (ofItems (x :: xs)).runs cs r ↔ ∃ s ∈ x.runs cs r, r' ∈ (ofItems xs).runs cs s := by
  cases xs with
  | nil => simp [ofItems, runs]
  | cons y ys => simp [ofItems, runs]

theorem mem_runs_ofItems_append {r r' : Run} :
    r' ∈ (ofItems (xs ++ ys)).runs cs r ↔
      ∃ s ∈ (ofItems xs).runs cs r, r' ∈ (ofItems ys).runs cs s := by
  induction xs generalizing r with
  | nil => simp [ofItems, runs]
  | cons x xs ih =>
    rw [List.cons_append, mem_runs_ofItems_cons]
    simp only [mem_runs_ofItems_cons, ih]
    constructor
    · rintro ⟨t, ht, s, hs, h⟩
      exact ⟨s, ⟨t, ht, hs⟩, h⟩
    · rintro ⟨s, ⟨t, ht, hs⟩, h⟩
      exact ⟨t, ht, s, hs, h⟩

/-- A part that may be missing is there once, or not at all. -/
theorem mem_runs_optional {r r' : Run} :
    r' ∈ (repetition 0 (some 1) true x).runs cs r ↔ r' ∈ x.runs cs r ∨ r' = r := by
  simp [runs, exactly, atMost]

theorem match_optional {p q : Nat} :
    (repetition 0 (some 1) true x).Match cs p q ↔ x.Match cs p q ∨ p = q := by
  constructor
  · rintro ⟨k, hk, h⟩
    have hk' : k ≤ 1 := hk 1 rfl
    obtain rfl | rfl : k = 0 ∨ k = 1 := by omega
    · exact .inr h
    · obtain ⟨m, hm, h⟩ := h
      exact .inl ((show m = q from h) ▸ hm)
  · rintro (h | rfl)
    · exact ⟨1, fun m hm => by cases hm; rfl, q, h, rfl⟩
    · exact ⟨0, fun m _ => Nat.zero_le _, rfl⟩

/-- Literal characters match the text that they are. -/
theorem match_literals {s : List Char} {p q : Nat} (hp : p ≤ cs.length) :
    (ofItems (literals s)).Match cs p q ↔ Between cs p q s := by
  induction s generalizing p with
  | nil =>
    constructor
    · intro h
      obtain rfl : p = q := h
      exact .nil hp
    · intro h
      obtain ⟨before, after, rfl, rfl, rfl⟩ := between_iff.1 h
      rfl
  | cons c s ih =>
    rw [literals, List.map_cons, match_ofItems_cons]
    have hone {m : Nat} : (one (.single c)).Match cs p m ↔ Between cs p m [c] := by
      rw [between_iff]
      constructor
      · rintro ⟨rfl, h⟩
        obtain ⟨d, hd, hc⟩ := (Option.any_eq_true _ _).1 h
        obtain rfl : d = c := by simpa using hc
        obtain ⟨hlt, rfl⟩ := List.getElem?_eq_some_iff.1 hd
        refine ⟨cs.take p, cs.drop (p + 1), ?_, by simp; omega, rfl⟩
        rw [List.append_assoc, List.singleton_append, List.getElem_cons_drop, List.take_append_drop]
      · rintro ⟨before, after, rfl, rfl, rfl⟩
        exact ⟨rfl, by simp⟩
    constructor
    · rintro ⟨m, hm, h⟩
      have hbetween := hone.1 hm
      exact hbetween.append ((ih hbetween.le_length).1 h)
    · intro h
      obtain ⟨m, hm, h⟩ := Between.split (s := [c]) h
      exact ⟨m, hone.2 hm, (ih hm.le_length).2 h⟩

theorem groupNames_ofItems (xs : List Expr) : (ofItems xs).groupNames = xs.flatMap groupNames := by
  induction xs with
  | nil => rfl
  | cons x xs ih =>
    cases xs with
    | nil => simp [ofItems]
    | cons y ys => rw [ofItems, groupNames, ih, List.flatMap_cons, List.flatMap_cons,
        List.flatMap_cons]; exact List.cons_ne_nil y ys

theorem groupNames_literals (s : List Char) : (ofItems (literals s)).groupNames = [] := by
  rw [groupNames_ofItems, literals, List.flatMap_map]
  exact List.flatMap_eq_nil_iff.2 fun c _ => rfl

end Expr

/-! ### Whole texts -/

/-- Expressions between the start and the end of the text. -/
def anchoredExpr (xs : List Expr) : Expr :=
  Expr.ofItems (.look .textStart :: xs ++ [.look .textEnd])

section

variable {cs : List Char} {p q : Nat}

theorem holdsAt_textStart (hp : p ≤ cs.length) : Look.textStart.holdsAt cs p = true ↔ p = 0 := by
  simp only [Look.holdsAt, Look.holds]
  by_cases h : p = 0
  · simp [h]
  · have hlt : p - 1 < cs.length := by omega
    simp [h, hlt]

theorem holdsAt_textEnd (hp : p ≤ cs.length) : Look.textEnd.holdsAt cs p = true ↔ p = cs.length := by
  simp only [Look.holdsAt, Look.holds, Option.isNone_iff_eq_none, List.getElem?_eq_none_iff]
  omega

variable {xs : List Expr}

theorem match_anchoredExpr (hp : p ≤ cs.length) :
    (anchoredExpr xs).Match cs p q ↔
      p = 0 ∧ q = cs.length ∧ (Expr.ofItems xs).Match cs 0 cs.length := by
  rw [anchoredExpr, Expr.match_ofItems_append]
  simp only [Expr.match_ofItems_cons]
  constructor
  · rintro ⟨m, ⟨i, ⟨rfl, -, hstart⟩, h⟩, j, ⟨rfl, hm, hend⟩, rfl⟩
    obtain rfl := (holdsAt_textStart hp).1 hstart
    obtain rfl := (holdsAt_textEnd hm).1 hend
    exact ⟨rfl, rfl, h⟩
  · rintro ⟨rfl, rfl, h⟩
    exact ⟨cs.length, ⟨0, ⟨rfl, hp, (holdsAt_textStart hp).2 rfl⟩, h⟩, cs.length,
      ⟨rfl, Nat.le_refl _, (holdsAt_textEnd (Nat.le_refl _)).2 rfl⟩, rfl⟩

/-- A run from the start of the text to its end goes through the links between them. -/
theorem mem_runs_of_mem_runs_anchoredExpr {r : Run} (hp : p ≤ cs.length)
    (h : r ∈ (anchoredExpr xs).runs cs ⟨p, []⟩) :
    r ∈ (Expr.ofItems xs).runs cs ⟨0, []⟩ ∧ r.position = cs.length := by
  obtain ⟨rfl, hend, -⟩ := (match_anchoredExpr hp).1 (Expr.match_of_mem_runs (r := ⟨p, []⟩) hp h)
  refine ⟨?_, hend⟩
  have hlook {l : Look} {s t : Run} (h : s ∈ (Expr.look l).runs cs t) : s = t := by
    rw [Expr.runs] at h
    split at h
    · exact List.mem_singleton.1 h
    · cases h
  obtain ⟨s, hs, h⟩ := Expr.mem_runs_ofItems_append.1 h
  obtain ⟨t, ht, hs⟩ := Expr.mem_runs_ofItems_cons.1 hs
  obtain rfl := hlook ht
  obtain rfl := hlook h
  exact hs

end

/-! ### Captured texts -/

namespace Run

/-- The texts that groups have captured, the latest first. -/
def texts (cs : List Char) (r : Run) : List (String × String) :=
  r.spans.map fun s => (s.1, String.ofList ((cs.take s.2.2).drop s.2.1))

theorem lookup_texts (cs : List Char) (r : Run) (name : String) :
    (r.texts cs).lookup name =
      (r.span? name).map fun (first, last) => String.ofList ((cs.take last).drop first) := by
  rw [texts, span?]
  induction r.spans with
  | nil => rfl
  | cons s spans ih =>
    rw [List.map_cons, List.lookup_cons, List.lookup_cons, ih]
    cases name == s.1 <;> rfl

theorem Keeps.texts_eq {cs : List Char} {r r' : Run} (h : Keeps [] r r') : r'.texts cs = r.texts cs := by
  obtain ⟨new, hspans, hnew⟩ := h
  cases new with
  | nil => rw [texts, texts, hspans, List.nil_append]
  | cons s new => cases hnew s List.mem_cons_self

end Run

theorem Expr.captures?_eq_some_iff {e : Expr} {s : String} {caps : Lookup} :
    e.captures? s = some caps ↔
      ∃ r, e.firstRun? s.toList = some r ∧ caps = fun name => (r.texts s.toList).lookup name := by
  simp only [captures?, Option.map_eq_some_iff, Run.lookup_texts, eq_comm]

end Regex

end RoutePatterns
