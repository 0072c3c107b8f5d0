import RoutePatterns.Proofs.Regex.Match

/-!
# Expressions without conditions on positions

An expression that asks for no condition on a position sees only the characters that it matches. It
matches a part of a text exactly if it matches that part as a text of its own
(`Expr.match_part_iff`).
-/

namespace RoutePatterns

namespace Regex

namespace Expr

/-- No part of the expression is a condition on a position. -/
def lookFree : Expr → Bool
  | empty => true
  | one _ => true
  | look _ => false
  | cat a b => a.lookFree && b.lookFree
  | alt a b => a.lookFree && b.lookFree
  | repetition _ _ _ e => e.lookFree
  | capture _ e => e.lookFree

variable {e : Expr}

/-- Text before and after a part changes nothing for the matches inside of the part. -/
theorem match_append_iff (he : e.lookFree = true) (before cs after : List Char) {p q : Nat}
    (hq : q ≤ cs.length) :
    e.Match (before ++ cs ++ after) (before.length + p) (before.length + q) ↔ e.Match cs p q := by
  induction e generalizing p q with
  | empty => exact Nat.add_left_cancel_iff
  | one s =>
    simp only [Match, Nat.add_assoc, Nat.add_left_cancel_iff]
    refine and_congr_right fun hqp => ?_
    rw [List.append_assoc, List.getElem?_append_right (Nat.le_add_right _ _),
      Nat.add_sub_cancel_left, List.getElem?_append_left (by omega)]
  | look l => cases he
  | cat a b iha ihb =>
    obtain ⟨ha, hb⟩ := Bool.and_eq_true_iff.1 he
    -- A match never goes back, so the position in between lies in the part, too.
    constructor
    · rintro ⟨m, hma, hmb⟩
      obtain ⟨m, rfl⟩ : ∃ k, m = before.length + k :=
        ⟨m - before.length, by have := hma.le; omega⟩
      have := hmb.le
      exact ⟨m, (iha ha (by omega)).1 hma, (ihb hb hq).1 hmb⟩
    · rintro ⟨m, hma, hmb⟩
      have := hmb.le
      exact ⟨before.length + m, (iha ha (by omega)).2 hma, (ihb hb hq).2 hmb⟩
  | alt a b iha ihb =>
    obtain ⟨ha, hb⟩ := Bool.and_eq_true_iff.1 he
    exact or_congr (iha ha hq) (ihb hb hq)
  | repetition min max greedy e ih =>
    refine exists_congr fun k => and_congr_right fun _ => ?_
    exact Times.shift_iff (forward_match _ e).le (ih he) (forward_match cs e).le hq
  | capture name e ih => exact ih he hq

/-- **An expression without conditions matches a part of a text exactly if it matches the part by
itself.** -/
theorem match_part_iff (he : e.lookFree = true) {cs : List Char} {p q : Nat} (hp : p ≤ q)
    (hq : q ≤ cs.length) :
    e.Match cs p q ↔ e.Match ((cs.take q).drop p) 0 (q - p) := by
  have htake : cs.take p ++ (cs.take q).drop p = cs.take q := by
    have := List.take_append_drop p (cs.take q)
    rwa [List.take_take, Nat.min_eq_left hp] at this
  have hcs : cs.take p ++ (cs.take q).drop p ++ cs.drop q = cs := by
    rw [htake, List.take_append_drop]
  have h := match_append_iff he (cs.take p) ((cs.take q).drop p) (cs.drop q) (p := 0) (q := q - p)
    (by simp; omega)
  rw [hcs, List.length_take_of_le (by omega), Nat.add_zero, Nat.add_sub_cancel' hp] at h
  exact h

end Expr

end Regex

end RoutePatterns
