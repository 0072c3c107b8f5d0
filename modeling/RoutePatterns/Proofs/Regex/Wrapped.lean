import RoutePatterns.Proofs.Regex.Finish
import RoutePatterns.Proofs.Regex.Seam

/-!
# Texts between `^(?:` and `)$`

If a text can be read between `^(?:` and `)$`, what does this say about the text alone? Unless it comes to
a closing parenthesis where it has no group open (`Reader.ClosesUnopened`), the text can be read alone, and
as a group (`Reader.of_run_wrapped`).

The reading of the whole is followed step by step (`Reader.step_back`). As long as the parenthesis of the
seam has not been read, the text alone is read in the same way. If it is read as a part of a lexeme or of
a comment, the group that was opened before the text stays open, and the whole cannot be read
(`Reader.not_finishes_of_crossed`).
-/

namespace RoutePatterns

namespace Regex

/-- A text begins with a closing parenthesis if its first lexeme is one. -/
theorem lexeme?_eq_close_iff {verbose : Bool} {cs rest : List Char} {c : Char} :
    lexeme? verbose (c :: cs) = some (.close, rest) ↔ c = ')' ∧ rest = cs := by
  constructor
  · intro h
    simp only [lexeme?] at h
    split at h
    case h_2 => exact ⟨rfl, (Prod.mk.inj (Option.some.inj h)).2.symm⟩
    case h_1 | h_5 =>
      obtain ⟨o, -, heq⟩ := Option.map_eq_some_iff.1 h
      cases (Prod.mk.inj heq).1
    case h_9 =>
      split at h
      · obtain ⟨o, -, heq⟩ := Option.map_eq_some_iff.1 h
        cases (Prod.mk.inj heq).1
      · cases (Prod.mk.inj (Option.some.inj h)).1
    all_goals cases (Prod.mk.inj (Option.some.inj h)).1
  · rintro ⟨rfl, rfl⟩
    rfl

namespace Reader

variable {n : Nat} {r r' s : Reader} {cs ds rest x : List Char} {d : Char} {f : Frame}

/-! ### Open groups -/

theorem under_frames_ne_nil : (r.under [f] []).frames ≠ [] := by simp [under]

/-- Only a closing parenthesis closes a group. -/
theorem take_frames_ne_nil {l : Lexeme} (h : r.take l = some r') (hl : l ≠ .close)
    (hframes : r.frames ≠ []) : r'.frames ≠ [] := by
  cases l with
  | enter o =>
    cases o with
    | group kind =>
      obtain ⟨-, rfl⟩ := openGroup_eq_some_iff.1 h
      exact List.cons_ne_nil _ _
    | flags changes =>
      obtain rfl := Option.some.inj h
      exact hframes
  | close => exact (hl rfl).elim
  | repeated count lazy =>
    obtain ⟨e, items, -, -, rfl⟩ := repeatLast_eq_some_iff.1 h
    exact hframes
  | _ =>
    obtain rfl := Option.some.inj h
    exact hframes

theorem step_frames_ne_nil (h : r.step (d :: cs) = some (r', rest)) (hd : d ≠ ')')
    (hframes : r.frames ≠ []) : r'.frames ≠ [] := by
  rcases step_eq_some_iff.1 h with ⟨-, l, hl, htake⟩ | ⟨k, -, hinside⟩
  · refine take_frames_ne_nil htake ?_ hframes
    rintro rfl
    exact hd (lexeme?_eq_close_iff.1 hl).1
  · rcases of_inside hinside with ⟨k', rfl⟩ | ⟨e, rfl⟩
    · exact hframes
    · exact hframes

theorem frames_of_isSome_finish (h : r.finish.isSome) : r.frames = [] := by
  obtain ⟨e, he⟩ := Option.isSome_iff_exists.1 h
  exact (finish_eq_some_iff.1 he).2.1

/-- Once the parenthesis of the seam has been read, an open group is not closed any more. -/
theorem not_finishes_of_crossed (hframes : r.frames ≠ []) (hcrossed : Crossed (skip r.verbose cs)) :
    ¬ Finishes r cs := by
  intro h
  cases hskip : skip r.verbose cs with
  | nil => exact hframes (frames_of_isSome_finish (h.finish hskip))
  | cons d rest =>
    obtain ⟨rfl, rfl⟩ := Crossed.eq_of_cons (hskip ▸ hcrossed)
    obtain ⟨r', cs', hstep, h'⟩ := h.step hskip
    have hframes' : r'.frames ≠ [] := step_frames_ne_nil hstep (by decide) hframes
    obtain rfl : cs' = [] := List.suffix_nil.1 (step_suffix hstep)
    exact hframes' (frames_of_isSome_finish (h'.finish rfl))

/-- A brace after a word boundary is no literal, so a text in which it holds no count cannot be read. -/
theorem not_finishes_of_brace (hclass : r.inClass = none) (hbrace : LeavesBrace r.verbose cs) :
    ¬ Finishes r cs := by
  intro h
  obtain ⟨inner, rfl, hcount⟩ := hbrace
  have hskip : skip r.verbose ('\x7b' :: inner) = '\x7b' :: inner := by
    cases r.verbose <;> rfl
  obtain ⟨r', cs', hstep, -⟩ := h.step hskip
  rcases step_eq_some_iff.1 hstep with ⟨-, l, hl, -⟩ | ⟨k, hk, -⟩
  · simp [lexeme?, operator?, hcount] at hl
  · rw [hclass] at hk
    cases hk

/-! ### Without the group around the text -/

/-- What is done inside of a group is done without it, unless it is the group that is closed. -/
theorem take_of_under {l : Lexeme} (h : (r.under [f] []).take l = some s) :
    (∃ r', r.take l = some r' ∧ s = r'.under [f] []) ∨ l = .close ∧ r.frames = [] := by
  cases l with
  | enter o =>
    cases o with
    | group kind =>
      obtain ⟨hfresh, rfl⟩ := openGroup_eq_some_iff.1 h
      have hfresh' : ∀ name ∈ kind.name?, name ∉ r.names := by simpa [under] using hfresh
      exact .inl ⟨_, openGroup_eq_some_iff.2 ⟨hfresh', rfl⟩, by simp [under]⟩
    | flags changes => exact .inl ⟨_, rfl, (Option.some.inj h).symm⟩
  | close =>
    obtain ⟨g, gs, hframes, rfl⟩ := closeGroup_eq_some_iff.1 h
    cases hr : r.frames with
    | nil => exact .inr ⟨rfl, rfl⟩
    | cons g' gs' =>
      simp only [under, hr, List.cons_append, List.cons.injEq] at hframes
      obtain ⟨rfl, rfl⟩ := hframes
      exact .inl ⟨_, closeGroup_eq_some_iff.2 ⟨_, _, hr, rfl⟩, rfl⟩
  | repeated count lazy =>
    obtain ⟨e, items, hitems, he, rfl⟩ := repeatLast_eq_some_iff.1 h
    exact .inl ⟨_, repeatLast_eq_some_iff.2 ⟨e, items, hitems, he, rfl⟩, rfl⟩
  | _ => exact .inl ⟨_, rfl, (Option.some.inj h).symm⟩

/-- A lexeme inside of a class does not read the parenthesis of the seam, if the whole can be read. -/
theorem inside_back {k : ClassReading} (h : (r.under [f] []).inside k (cs ++ seam) = some (s, x))
    (hs : Finishes s x) :
    ∃ r' rest, r.inside k cs = some (r', rest) ∧ s = r'.under [f] [] ∧ x = rest ++ seam := by
  rw [inside_under] at h
  obtain ⟨⟨r', x'⟩, hinside, heq⟩ := Option.map_eq_some_iff.1 h
  obtain ⟨rfl, rfl⟩ := Prod.mk.inj heq
  rcases backed_inside r k hinside with hcrossed | ⟨rest, rfl, hrest⟩
  · have hopen : (r'.under [f] []).frames ≠ [] := under_frames_ne_nil
    exact absurd hs (not_finishes_of_crossed hopen (hcrossed.suffix (skip_suffix _ _)))
  · exact ⟨r', rest, hrest, rfl, rfl⟩

/-- **One step back.** A lexeme of a text that stands in a group is read from the text alone, if the whole
can be read; or else it is a parenthesis that closes the group. -/
theorem step_back (h : (r.under [f] []).step (d :: ds ++ seam) = some (s, x)) (hs : Finishes s x) :
    (∃ r' rest, r.step (d :: ds) = some (r', rest) ∧ s = r'.under [f] [] ∧ x = rest ++ seam) ∨
      d = ')' ∧ r.inClass = none ∧ r.frames = [] := by
  rcases step_eq_some_iff.1 h with ⟨hclass, l, hl, htake⟩ | ⟨k, hclass, hinside⟩
  · rcases lexeme?_seam hl with hcrossed | ⟨rest, rfl, hl'⟩ | ⟨⟨b, rfl⟩, hbrace⟩
    · -- The lexeme has read the parenthesis of the seam, but is not that parenthesis.
      have hclose : l ≠ .close := by
        rintro rfl
        obtain ⟨-, rfl⟩ := lexeme?_eq_close_iff.1 hl
        exact not_crossed_append_seam hcrossed
      have hopen : s.frames ≠ [] := take_frames_ne_nil htake hclose under_frames_ne_nil
      exact absurd hs (not_finishes_of_crossed hopen (hcrossed.suffix (skip_suffix _ x)))
    · rcases take_of_under htake with ⟨r', htake', rfl⟩ | ⟨rfl, hframes⟩
      · exact .inl ⟨r', rest, step_eq_some_iff.2 (.inl ⟨hclass, l, hl', htake'⟩), rfl, rfl⟩
      · exact .inr ⟨(lexeme?_eq_close_iff.1 hl).1, hclass, hframes⟩
    · obtain rfl := Option.some.inj htake
      exact absurd hs (not_finishes_of_brace hclass hbrace)
  · obtain ⟨r', rest, hrest, rfl, rfl⟩ := inside_back hinside hs
    exact .inl ⟨r', rest, step_eq_some_iff.2 (.inr ⟨k, hclass, hrest⟩), rfl, rfl⟩

/-- At the end of the text the parenthesis of the seam closes the group, so nothing else is open. -/
theorem finish_of_step_seam (h : (r.under [f] []).step seam = some (s, x)) (hs : Finishes s x) :
    r.finish.isSome := by
  rcases step_eq_some_iff.1 h with ⟨hclass, l, hl, htake⟩ | ⟨k, -, hinside⟩
  · obtain ⟨rfl, rfl⟩ := Prod.mk.inj (Option.some.inj hl)
    rcases take_of_under htake with ⟨r', -, rfl⟩ | ⟨-, hframes⟩
    · have hopen : (r'.under [f] []).frames ≠ [] := under_frames_ne_nil
      exact absurd hs (not_finishes_of_crossed hopen (crossed_dollar.suffix (skip_suffix _ _)))
    · exact Option.isSome_of_eq_some (finish_eq_some_iff.2 ⟨hclass, hframes, rfl⟩)
  · -- A class would not go on at the end of the text.
    obtain ⟨r', rest, hnone, -⟩ := @inside_back r s [] x f k hinside hs
    cases hnone

/-! ### Whole texts -/

/-- A text is read up to a closing parenthesis, outside of classes, where it has no group open. -/
def ClosesUnopened (r : Reader) (cs : List Char) : Prop :=
  ∃ n r' cs' rest, Steps n r cs r' cs' ∧ skip r'.verbose cs' = ')' :: rest ∧
    r'.inClass = none ∧ r'.frames = []

theorem ClosesUnopened.of_step (hskip : skip r.verbose cs = d :: ds)
    (hstep : r.step (d :: ds) = some (r', rest)) (h : ClosesUnopened r' rest) :
    ClosesUnopened r cs := by
  obtain ⟨n, r'', cs'', rest', hsteps, hend⟩ := h
  exact ⟨n + 1, r'', cs'', rest', .step hskip hstep hsteps, hend⟩

/-- A text with such a parenthesis cannot be read alone. -/
theorem Finishes.not_closesUnopened (h : Finishes r cs) : ¬ ClosesUnopened r cs := by
  rintro ⟨n, r', cs', rest, hsteps, hskip, hclass, hframes⟩
  obtain ⟨r'', cs'', hstep, -⟩ := (h.of_steps hsteps).step hskip
  rcases step_eq_some_iff.1 hstep with ⟨-, l, hl, htake⟩ | ⟨k, hk, -⟩
  · obtain ⟨rfl, -⟩ := Prod.mk.inj (Option.some.inj hl)
    obtain ⟨f, frames, hopen, -⟩ := closeGroup_eq_some_iff.1 htake
    rw [hframes] at hopen
    cases hopen
  · rw [hclass] at hk
    cases hk

/-- A text that can be read in a group can be read alone, or it closes the group. -/
theorem closesUnopened_or_finishes (h : Finishes (r.under [f] []) (cs ++ seam)) :
    ClosesUnopened r cs ∨ Finishes r cs := by
  obtain ⟨n, s, x, hsteps, hend, hfinish⟩ := h
  induction n generalizing r cs with
  | zero =>
    cases hsteps
    exact absurd (frames_of_isSome_finish hfinish) under_frames_ne_nil
  | succ n ih =>
    have hwhole : Finishes (r.under [f] []) (cs ++ seam) := ⟨n + 1, s, x, hsteps, hend, hfinish⟩
    -- A comment that is open at the end of the text would pass over the parenthesis.
    rcases skip_seam r.verbose cs with ⟨hcrossed, -⟩ | hseam
    · exact absurd hwhole (not_finishes_of_crossed under_frames_ne_nil hcrossed)
    cases hsteps with
    | @step _ _ s₁ _ _ x₁ _ rest c hskip hstep hsteps =>
      have hs₁ : Finishes s₁ x₁ := ⟨n, s, x, hsteps, hend, hfinish⟩
      rw [← hskip] at hstep
      change (r.under [f] []).step (skip r.verbose (cs ++ seam)) = _ at hstep
      rw [hseam] at hstep
      cases hread : skip r.verbose cs with
      | nil =>
        rw [hread] at hstep
        exact .inr ⟨0, r, cs, .refl r cs, hread, finish_of_step_seam hstep hs₁⟩
      | cons d ds =>
        rw [hread] at hstep
        rcases step_back hstep hs₁ with ⟨r', rest', hstep', rfl, rfl⟩ | ⟨rfl, hclass, hframes⟩
        · rcases ih hsteps with hcloses | hfinishes
          · exact .inl (.of_step hread hstep' hcloses)
          · obtain ⟨m, r'', cs'', hsteps', hend'⟩ := hfinishes
            exact .inr ⟨m + 1, r'', cs'', .step hread hstep' hsteps', hend'⟩
        · exact .inl ⟨0, r, cs, ds, .refl r cs, hread, hclass, hframes⟩

/-- The reader after `^(?:`. -/
theorem steps_wrapped (cs : List Char) :
    Steps 2 {} ('^' :: (['(', '?', ':'] ++ cs))
      (({} : Reader).under [⟨.plain [], [], [.assertion .lineStart], false⟩] []) cs := by
  have hstart : ({} : Reader).step ('^' :: (['(', '?', ':'] ++ cs)) =
      some (({} : Reader).push (.assertion .lineStart), ['(', '?', ':'] ++ cs) := rfl
  have hopen := step_plainGroup (({} : Reader).push (.assertion .lineStart)) rfl rfl cs
  exact .step rfl hstart (.step rfl hopen (.refl _ cs))

/-- A text that can be read alone, and in a group before `$`, can be read as a group. -/
theorem groupable_of_finishes {e : Syntax} (hread : run {} cs = some e)
    (h : Finishes (({} : Reader).under [f] []) (cs ++ seam)) : Groupable cs := by
  obtain ⟨n, -, r, cs', hsteps, hend, hfinish⟩ := runFor_eq_some_iff.1 hread
  obtain ⟨hclass, hframes, rfl⟩ := finish_eq_some_iff.1 hfinish
  rcases hsteps.paren hend hclass with hparen | hopen
  · obtain ⟨rest, hparen, hrest⟩ := hparen []
    have hunder : Steps n _ _ (r.under [⟨.plain [], [], [], false⟩] []) rest :=
      hparen.under _ fun _ _ => List.not_mem_nil
    have hclose : (r.under [⟨.plain [], [], [], false⟩] []).step [')'] =
        some (⟨[], [], [.group (.plain []) r.body], false, r.names ++ [], none⟩, []) := by
      simp only [step, under, hclass, hframes]
      rfl
    have hgroup : Steps (n + 1 + 1) {} (['(', '?', ':'] ++ (cs ++ [')'])) _ [] :=
      .step rfl (step_plainGroup {} rfl rfl (cs ++ [')']))
        (hunder.trans (.step hrest hclose (.refl _ _)))
    rw [Groupable, List.append_assoc]
    exact isSome_run_iff.2 ⟨_, _, _, hgroup, rfl, rfl⟩
  · -- A comment that is open at the end of the text goes on through the seam.
    obtain ⟨rest, hopen, hrest⟩ := hopen ['$'] (by decide)
    have hunder : Steps n (({} : Reader).under [f] []) (cs ++ seam) (r.under [f] []) rest :=
      hopen.under _ fun _ _ => List.not_mem_nil
    have hfinish' := (h.of_steps hunder).finish hrest
    exact absurd (frames_of_isSome_finish hfinish') under_frames_ne_nil

/-- **What can be read between `^(?:` and `)$` can be read alone and as a group**, unless it closes a group
that it has not opened. -/
theorem of_run_wrapped (h : (run {} ('^' :: (['(', '?', ':'] ++ (cs ++ seam)))).isSome) :
    ClosesUnopened {} cs ∨ (run {} cs).isSome ∧ Groupable cs := by
  have hinner := (isSome_run_iff.1 h).of_steps (steps_wrapped (cs ++ seam))
  rcases closesUnopened_or_finishes hinner with hcloses | hfinishes
  · exact .inl hcloses
  · have hread := isSome_run_iff.2 hfinishes
    obtain ⟨e, he⟩ := Option.isSome_iff_exists.1 hread
    exact .inr ⟨hread, groupable_of_finishes he hinner⟩

end Reader

end Regex

end RoutePatterns
