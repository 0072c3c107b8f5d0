import RoutePatterns.CommandLine.Outcome

/-!
# Outcomes that report a result

A command that has one thing to show reports it (`Reports`): it succeeds exactly if there is a result, and shows it
then; and it prints nothing if there is none.
-/

namespace RoutePatterns

namespace CommandLine

variable {ε α : Type} {result : Except ε α} {Shows : α → String → Prop}

/-- An outcome reports a result, of which what is printed shows something. -/
structure Reports (result : Except ε α) (Shows : α → String → Prop) (o : Outcome) : Prop where
  /-- The command succeeds if and only if there is a result. -/
  code_eq_zero_iff : o.code = 0 ↔ ∃ x, result = .ok x
  /-- A result is shown. -/
  shows : ∀ x, result = .ok x → Shows x o.output
  /-- Without a result the command fails, and nothing is printed. -/
  failed : ∀ e, result = .error e → o.code = 1 ∧ o.output = ""
  /-- The command ends. -/
  watch_eq_none : o.watch = none

theorem reports_of_eq_ok {x : α} {output : String} {notes : List Note} (h : result = .ok x)
    (hshows : Shows x output) : Reports result Shows { output, notes } where
  code_eq_zero_iff := by simp [h]
  shows y hy := by
    obtain rfl := Except.ok.inj (h.symm.trans hy)
    exact hshows
  failed := by simp [h]
  watch_eq_none := rfl

theorem reports_of_eq_error {e : ε} {notes : List Note} (h : result = .error e) :
    Reports result Shows { code := 1, notes } where
  code_eq_zero_iff := by simp [h]
  shows := by simp [h]
  failed _ _ := ⟨rfl, rfl⟩
  watch_eq_none := rfl

end CommandLine

end RoutePatterns
