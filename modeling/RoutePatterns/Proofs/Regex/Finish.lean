import RoutePatterns.Proofs.Regex.Group
import RoutePatterns.Proofs.Regex.Progress

/-!
# Texts that are read to their end

`Reader.Finishes` says that a text can be read to its end, in any number of steps; `Reader.run` takes
enough of them (`Reader.isSome_run_iff`). As there is only one way to read a text, this is kept by every
step (`Finishes.of_steps`): a text that is read to its end has no lexeme on the way that cannot be read.
-/

namespace RoutePatterns

namespace Regex

namespace Reader

/-- A text is read to its end, where nothing is open. -/
def Finishes (r : Reader) (cs : List Char) : Prop :=
  ∃ n r' cs', Steps n r cs r' cs' ∧ skip r'.verbose cs' = [] ∧ r'.finish.isSome

variable {n : Nat} {r r' : Reader} {cs cs' rest : List Char} {c : Char}

/-- Every step takes a character. -/
theorem Steps.length_le (h : Steps n r cs r' cs') : n + cs'.length ≤ cs.length := by
  induction h with
  | refl => omega
  | @step n r r' r'' cs cs' cs'' rest c hskip hstep _ ih =>
    have hread := (step_suffix hstep).length_le
    have hblank := (skip_suffix r.verbose cs).length_le
    rw [hskip, List.length_cons] at hblank
    omega

theorem finishes_of_run {e : Syntax} (h : r.run cs = some e) : Finishes r cs := by
  obtain ⟨n, -, r', cs', hsteps, hend, hfinish⟩ := runFor_eq_some_iff.1 h
  exact ⟨n, r', cs', hsteps, hend, Option.isSome_of_eq_some hfinish⟩

/-- The reader is given as many lexemes as characters, which is enough for every text. -/
theorem isSome_run_iff : (r.run cs).isSome ↔ Finishes r cs := by
  constructor
  · intro h
    obtain ⟨e, he⟩ := Option.isSome_iff_exists.1 h
    exact finishes_of_run he
  · rintro ⟨n, r', cs', hsteps, hend, hfinish⟩
    obtain ⟨e, he⟩ := Option.isSome_iff_exists.1 hfinish
    have hlength := hsteps.length_le
    have hrun : r.run cs = some e :=
      runFor_eq_some_iff.2 ⟨n, by omega, r', cs', hsteps, hend, he⟩
    exact Option.isSome_of_eq_some hrun

/-- Where a text goes on, so does the reader. -/
theorem Finishes.step (h : Finishes r cs) (hskip : skip r.verbose cs = c :: rest) :
    ∃ r' cs', r.step (c :: rest) = some (r', cs') ∧ Finishes r' cs' := by
  obtain ⟨n, r', cs', hsteps, hend, hfinish⟩ := h
  cases hsteps with
  | refl => rw [hskip] at hend; cases hend
  | step hskip' hstep hsteps =>
    obtain ⟨rfl, rfl⟩ := List.cons.inj (hskip.symm.trans hskip')
    exact ⟨_, _, hstep, _, _, _, hsteps, hend, hfinish⟩

/-- At the end of a text nothing is open. -/
theorem Finishes.finish (h : Finishes r cs) (hend : skip r.verbose cs = []) : r.finish.isSome := by
  obtain ⟨n, r', cs', hsteps, -, hfinish⟩ := h
  cases hsteps with
  | refl => exact hfinish
  | step hskip _ _ => rw [hend] at hskip; cases hskip

theorem Finishes.of_steps (h : Finishes r cs) (hsteps : Steps n r cs r' cs') : Finishes r' cs' := by
  induction hsteps with
  | refl => exact h
  | step hskip hstep _ ih =>
    obtain ⟨r₁, cs₁, hstep₁, h₁⟩ := h.step hskip
    obtain ⟨rfl, rfl⟩ := Prod.mk.inj (Option.some.inj (hstep.symm.trans hstep₁))
    exact ih h₁

theorem Finishes.of_leads (h : Finishes r cs) (hleads : Leads r cs r' cs') : Finishes r' cs' := by
  obtain ⟨n, -, hsteps⟩ := hleads
  exact h.of_steps hsteps

end Reader

end Regex

end RoutePatterns
