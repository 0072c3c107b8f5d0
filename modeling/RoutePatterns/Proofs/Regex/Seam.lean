import RoutePatterns.Proofs.Regex.Progress

/-!
# Lexemes before the end of a group

A constraint is checked between `^(?:` and `)$`. Here a text is followed by `)$`, the `seam`, and the
question is what a lexeme that is read there says about the text alone. Either it is read from the text
alone in the same way, or the seam is crossed: the parenthesis has been read, as a part of the lexeme or of
a comment (`Backed`). There is one exception, because a brace after `\b` is looked into: a brace may be
left at which no lexeme can begin (`LeavesBrace`).

`backed_inside` and `lexeme?_seam` state this for the lexemes inside and outside of classes. The other
direction, from the text alone to the text before a parenthesis, is `Reader.step_paren`.
-/

namespace RoutePatterns

namespace Regex

/-- What follows a constraint in the expression for whole values. -/
def seam : List Char := [')', '$']

/-- What is left when the parenthesis of the seam has been read. -/
def Crossed (cs : List Char) : Prop := cs <:+ ['$']

/-- What is read of a text before the seam is read of the text alone, unless the seam is crossed. -/
def Backed {α : Type} (f : List Char → Option (α × List Char)) : Prop :=
  ∀ ⦃cs a x⦄, f (cs ++ seam) = some (a, x) →
    Crossed x ∨ ∃ rest, x = rest ++ seam ∧ f cs = some (a, rest)

/-- A brace is left that begins no count, so that no lexeme begins there. -/
def LeavesBrace (verbose : Bool) (cs : List Char) : Prop :=
  ∃ inner, cs = '\x7b' :: inner ∧ count? verbose inner = none

variable {α β : Type} {verbose : Bool} {cs cs' rest x : List Char} {c : Char}

theorem Crossed.suffix (h : Crossed cs) (hsuffix : cs' <:+ cs) : Crossed cs' := hsuffix.trans h

theorem crossed_nil : Crossed [] := List.nil_suffix

theorem crossed_dollar : Crossed ['$'] := List.suffix_rfl

theorem Crossed.cases (h : Crossed cs) : cs = [] ∨ cs = ['$'] := by
  cases cs with
  | nil => exact .inl rfl
  | cons c cs =>
    have hlength := h.length_le
    rw [List.length_cons, List.length_singleton] at hlength
    obtain rfl : cs = [] := List.eq_nil_of_length_eq_zero (by omega)
    exact .inr (h.eq_of_length rfl)

theorem Crossed.eq_of_cons (h : Crossed (c :: cs)) : c = '$' ∧ cs = [] := by
  rcases h.cases with heq | heq
  · cases heq
  · exact List.cons.inj heq

theorem not_crossed_append_seam : ¬ Crossed (cs ++ seam) := by
  intro h
  have hlength := h.length_le
  simp [seam] at hlength

/-- A text before the seam does not begin with the parenthesis only if it is not empty. -/
theorem cons_of_append_seam (h : cs ++ seam = c :: x) (hc : c ≠ ')') :
    ∃ rest, cs = c :: rest ∧ x = rest ++ seam := by
  cases cs with
  | nil => exact absurd (List.cons.inj h).1.symm hc
  | cons d cs =>
    obtain ⟨rfl, rfl⟩ := List.cons.inj h
    exact ⟨cs, rfl, rfl⟩

theorem Backed.map {f : List Char → Option (α × List Char)} (hf : Backed f) (g : α → β) :
    Backed fun cs => (f cs).map fun r => (g r.1, r.2) := by
  intro cs b x h
  obtain ⟨⟨a, x'⟩, ha, hb⟩ := Option.map_eq_some_iff.1 h
  obtain ⟨rfl, rfl⟩ := Prod.mk.inj hb
  refine (hf ha).imp_right ?_
  rintro ⟨rest, hx, hrest⟩
  exact ⟨rest, hx, by simp only [hrest, Option.map_some]⟩

/-! ### Blanks, comments and spans -/

theorem skipFrom_seam (verbose comment : Bool) (cs : List Char) :
    Crossed (skipFrom verbose comment (cs ++ seam)) ∧ skipFrom verbose comment cs = [] ∨
      skipFrom verbose comment (cs ++ seam) = skipFrom verbose comment cs ++ seam := by
  induction cs generalizing comment with
  | nil =>
    rw [List.nil_append, seam, skipFrom_cons]
    cases verbose with
    | false => exact .inr rfl
    | true =>
      cases passed true comment ')' with
      | some comment' => exact .inl ⟨skipFrom_suffix true comment' ['$'], rfl⟩
      | none => exact .inr rfl
  | cons c cs ih =>
    rw [List.cons_append, skipFrom_cons, skipFrom_cons]
    cases verbose with
    | false => exact .inr rfl
    | true =>
      cases passed true comment c with
      | some comment' => exact ih comment'
      | none => exact .inr rfl

/-- A comment that is open at the seam passes over it. -/
theorem skip_seam (verbose : Bool) (cs : List Char) :
    Crossed (skip verbose (cs ++ seam)) ∧ skip verbose cs = [] ∨
      skip verbose (cs ++ seam) = skip verbose cs ++ seam :=
  skipFrom_seam verbose false cs

theorem spanFrom_seam {p : Char → Bool} {comment : Bool} {limit limit' : Nat}
    (hl : SameLimit cs limit limit') :
    Crossed (spanFrom verbose p limit' comment (cs ++ seam)).2 ∨
      spanFrom verbose p limit' comment (cs ++ seam) =
        ((spanFrom verbose p limit comment cs).1, (spanFrom verbose p limit comment cs).2 ++ seam) := by
  induction cs generalizing comment limit limit' with
  | nil =>
    rw [List.nil_append, seam, spanFrom_cons]
    cases passed verbose comment ')' with
    | some comment' => exact .inl (spanFrom_suffix verbose comment' p limit' ['$'])
    | none =>
      cases limit' with
      | zero => exact .inr rfl
      | succ limit' =>
        simp only
        split
        · exact .inl (spanFrom_suffix verbose false p limit' ['$'])
        · exact .inr rfl
  | cons c cs ih =>
    rw [List.cons_append, spanFrom_cons, spanFrom_cons]
    cases passed verbose comment c with
    | some comment' => exact ih hl.tail
    | none =>
      rcases hl.cases with ⟨rfl, rfl⟩ | ⟨n, m, rfl, rfl, htail⟩
      · exact .inr rfl
      · simp only
        split
        · refine (ih htail).imp_right ?_
          intro heq
          rw [heq]
        · exact .inr rfl

theorem span_seam (verbose : Bool) (p : Char → Bool) (cs : List Char) :
    Crossed (span verbose p (cs ++ seam)).2 ∨
      span verbose p (cs ++ seam) = ((span verbose p cs).1, (span verbose p cs).2 ++ seam) :=
  spanFrom_seam (.inr ⟨Nat.le_refl _, by simp⟩)

/-- Where a span is empty, it ends where blanks and comments do. -/
theorem skipFrom_of_spanFrom {p : Char → Bool} {comment : Bool} {limit : Nat}
    (hcomment : comment = true → verbose = true)
    (h : spanFrom verbose p limit comment cs = ([], rest)) : skipFrom verbose comment cs = rest := by
  induction cs generalizing comment with
  | nil => exact (Prod.mk.inj h).2
  | cons c cs ih =>
    rw [spanFrom_cons] at h
    rw [skipFrom_cons]
    cases hpassed : passed verbose comment c with
    | some comment' =>
      have hv : verbose = true := by
        cases verbose with
        | true => rfl
        | false =>
          cases comment with
          | true => exact hcomment rfl
          | false => cases hpassed
      simp only [hpassed] at h
      rw [if_pos hv]
      exact ih (fun _ => hv) h
    | none =>
      have hrest : c :: cs = rest := by
        simp only [hpassed] at h
        split at h
        · exact (Prod.mk.inj h).2
        · split at h
          · cases (Prod.mk.inj h).1
          · exact (Prod.mk.inj h).2
      simp [hrest]

theorem dropWhile_seam {p : Char → Bool} (hp : p ')' = false) (cs : List Char) :
    (cs ++ seam).dropWhile p = cs.dropWhile p ++ seam := by
  have hseam : seam.dropWhile p = seam := by simp [seam, hp]
  rw [List.dropWhile_append, hseam]
  split
  · next hempty => rw [List.isEmpty_iff.1 hempty, List.nil_append]
  · rfl

/-! ### Numbers -/

theorem decimal_seam (verbose : Bool) (cs : List Char) :
    Crossed (decimal verbose (cs ++ seam)).2 ∨
      decimal verbose (cs ++ seam) = ((decimal verbose cs).1, (decimal verbose cs).2 ++ seam) := by
  have hblank : Unicode.isBlank ')' = false := by decide
  rw [decimal, decimal, dropWhile_seam hblank]
  rcases span_seam verbose Char.isDigit (cs.dropWhile Unicode.isBlank) with hcrossed | heq
  · exact .inl (hcrossed.suffix (List.dropWhile_suffix _))
  · refine .inr ?_
    rw [heq]
    simp only [dropWhile_seam hblank]

/-- After the seam there is no number. -/
theorem decimal_of_crossed (h : Crossed cs) : (decimal verbose cs).1 = none := by
  rcases h.cases with rfl | rfl
  · rfl
  · cases verbose <;> rfl

theorem count?_of_skip (h : Crossed (skip verbose cs) ∨ skip verbose cs = seam) :
    count? verbose cs = none := by
  have hnone : (decimal verbose (skip verbose cs)).1 = none := by
    rcases h with hcrossed | heq
    · exact decimal_of_crossed hcrossed
    · rw [heq]
      cases verbose <;> rfl
  rw [count?]
  split
  · next heq => rw [heq] at hnone; cases hnone
  · next heq => rw [heq] at hnone; cases hnone
  · rfl

/-- What is left of blanks, or of a number, and does not begin with a part of the seam, is before it. -/
theorem decimal_skip_seam {n : Nat} (hparen : c ≠ ')') (hdollar : c ≠ '$')
    (h : decimal verbose (skip verbose (cs ++ seam)) = (some n, c :: x)) :
    ∃ rest, x = rest ++ seam ∧ decimal verbose (skip verbose cs) = (some n, c :: rest) := by
  rcases skip_seam verbose cs with ⟨hcrossed, -⟩ | hskip
  · have hnone := @decimal_of_crossed verbose _ hcrossed
    rw [h] at hnone
    cases hnone
  · rw [hskip] at h
    rcases decimal_seam verbose (skip verbose cs) with hcrossed | heq
    · rw [h] at hcrossed
      exact absurd hcrossed.eq_of_cons.1 hdollar
    · obtain ⟨hn, hy⟩ := Prod.mk.inj (heq.symm.trans h)
      obtain ⟨rest, hrest, hy⟩ := cons_of_append_seam hy hparen
      exact ⟨rest, hy, Prod.ext hn hrest⟩

theorem skip_cons_seam (hparen : c ≠ ')') (hdollar : c ≠ '$')
    (h : skip verbose (cs ++ seam) = c :: x) :
    ∃ rest, x = rest ++ seam ∧ skip verbose cs = c :: rest := by
  rcases skip_seam verbose cs with ⟨hcrossed, -⟩ | hskip
  · rw [h] at hcrossed
    exact absurd hcrossed.eq_of_cons.1 hdollar
  · obtain ⟨rest, hrest, hx⟩ := cons_of_append_seam (hskip.symm.trans h) hparen
    exact ⟨rest, hx, hrest⟩

theorem backed_count? (verbose : Bool) : Backed (count? verbose) := by
  intro cs k x h
  right
  obtain ⟨min, ⟨hmin, rfl⟩ | ⟨y, hmin, hmax⟩⟩ := count?_eq_some_iff.1 h
  · obtain ⟨rest, rfl, hmin'⟩ := decimal_skip_seam (by decide) (by decide) hmin
    exact ⟨rest, rfl, count?_eq_some_iff.2 ⟨min, .inl ⟨hmin', rfl⟩⟩⟩
  · obtain ⟨y, rfl, hmin'⟩ := decimal_skip_seam (by decide) (by decide) hmin
    rcases hmax with ⟨hy, rfl⟩ | ⟨max, hmax, hle, rfl⟩
    · obtain ⟨rest, rfl, hy'⟩ := skip_cons_seam (by decide) (by decide) hy
      exact ⟨rest, rfl, count?_eq_some_iff.2 ⟨min, .inr ⟨y, hmin', .inl ⟨hy', rfl⟩⟩⟩⟩
    · obtain ⟨rest, rfl, hmax'⟩ := decimal_skip_seam (by decide) (by decide) hmax
      exact ⟨rest, rfl, count?_eq_some_iff.2 ⟨min, .inr ⟨y, hmin', .inr ⟨max, hmax', hle, rfl⟩⟩⟩⟩

/-! ### Escapes -/

/-- What is written between braces. -/
theorem span_brace_seam {p : Char → Bool} {taken : List Char}
    (h : span verbose p (cs ++ seam) = (taken, c :: x)) :
    Crossed x ∨ ∃ rest, x = rest ++ seam ∧ span verbose p cs = (taken, c :: rest) := by
  rcases span_seam verbose p cs with hcrossed | heq
  · rw [h] at hcrossed
    exact .inl (hcrossed.suffix (List.suffix_cons c x))
  · obtain ⟨htaken, hrest⟩ := Prod.mk.inj (heq.symm.trans h)
    cases hspan : (span verbose p cs).2 with
    | nil =>
      rw [hspan] at hrest
      obtain ⟨-, rfl⟩ := List.cons.inj hrest
      exact .inl crossed_dollar
    | cons d rest =>
      rw [hspan] at hrest
      obtain ⟨rfl, rfl⟩ := List.cons.inj hrest
      exact .inr ⟨rest, rfl, Prod.ext htaken hspan⟩

theorem backed_propertyEscape? (verbose : Bool) : Backed (propertyEscape? verbose) := by
  intro cs a x h
  rw [propertyEscape?] at h
  rcases skip_seam verbose cs with ⟨hcrossed, -⟩ | hskip
  · rcases hcrossed.cases with heq | heq
    · rw [heq] at h
      cases h
    · rw [heq] at h
      obtain ⟨-, rfl⟩ := Prod.mk.inj (Option.some.inj h)
      exact .inl crossed_nil
  · rw [hskip] at h
    split at h
    · next y hbrace =>
      obtain ⟨rest, hrest, rfl⟩ := cons_of_append_seam hbrace (by decide)
      split at h
      · next query d y hspan =>
        obtain ⟨rfl, rfl⟩ := Prod.mk.inj (Option.some.inj h)
        refine (span_brace_seam hspan).imp_right ?_
        rintro ⟨rest', rfl, hspan'⟩
        refine ⟨rest', rfl, ?_⟩
        rw [propertyEscape?, hrest]
        simp only [hspan']
      · cases h
    · cases h
    · next d y hbrace hslash heq =>
      obtain ⟨rfl, rfl⟩ := Prod.mk.inj (Option.some.inj h)
      cases hrest : skip verbose cs with
      | nil =>
        rw [hrest] at heq
        obtain ⟨-, rfl⟩ := List.cons.inj heq
        exact .inl crossed_dollar
      | cons e rest =>
        rw [hrest] at heq
        obtain ⟨rfl, rfl⟩ := List.cons.inj heq
        refine .inr ⟨rest, rfl, ?_⟩
        rw [propertyEscape?, hrest]
        split
        · next heq' => exact (hbrace (List.cons.inj heq').1).elim
        · next heq' => exact (hslash (List.cons.inj heq').1).elim
        · next heq' =>
          obtain ⟨rfl, rfl⟩ := List.cons.inj heq'
          rfl
        · next heq' => cases heq'
    · cases h

theorem hexEscape?_of_crossed {digits : Nat}
    (h : Crossed (skip verbose cs) ∨ skip verbose cs = seam) : hexEscape? verbose digits cs = none := by
  have hnone {c : Char} {cs' : List Char} (hc : (hexValue? c).isSome = false) (hbrace : c ≠ '\x7b')
      (hpassed : passed verbose false c = none) (hskip : skip verbose cs = c :: cs') :
      hexEscape? verbose digits cs = none := by
    have hspan : spanFrom verbose (fun c => (hexValue? c).isSome) digits false (c :: cs') =
        ([], c :: cs') := by
      rw [spanFrom_cons, hpassed]
      cases digits <;> simp [hc]
    rw [hexEscape?_of_spanFrom hskip hbrace hspan]
    split <;> rfl
  have hdollar : passed verbose false '$' = none := by cases verbose <;> rfl
  rcases h with hcrossed | hseam
  · rcases hcrossed.cases with heq | heq
    · have hempty : hexChar? [] = none := rfl
      by_cases hd : 0 = digits <;> simp [hexEscape?, heq, spanFrom, guard, hd, hempty]
    · exact hnone (by decide) (by decide) hdollar heq
  · exact hnone (by decide) (by decide) (passed_paren verbose) hseam

theorem backed_hexEscape? (verbose : Bool) (digits : Nat) : Backed (hexEscape? verbose digits) := by
  intro cs a x h
  rcases skip_seam verbose cs with ⟨hcrossed, -⟩ | hskip
  · rw [hexEscape?_of_crossed (.inl hcrossed)] at h
    cases h
  · cases hcs : skip verbose cs with
    | nil =>
      rw [hexEscape?_of_crossed (.inr (by rw [hskip, hcs]; rfl))] at h
      cases h
    | cons c cs' =>
      rw [hcs, List.cons_append] at hskip
      by_cases hc : c = '\x7b'
      · subst hc
        rw [hexEscape?, hskip] at h
        simp only at h
        split at h
        · next code d y hspan =>
          obtain ⟨ch, hch, he⟩ := Option.map_eq_some_iff.1 h
          obtain ⟨rfl, rfl⟩ := Prod.mk.inj he
          refine (span_brace_seam hspan).imp_right ?_
          rintro ⟨rest, rfl, hspan'⟩
          refine ⟨rest, rfl, ?_⟩
          rw [hexEscape?, hcs]
          simp only [hspan', hch, Option.map_some]
        · cases h
      · obtain ⟨⟨code, y⟩, hspan⟩ : ∃ r, spanFrom verbose (fun c => (hexValue? c).isSome) digits
          false (c :: (cs' ++ seam)) = r := ⟨_, rfl⟩
        rw [hexEscape?_of_spanFrom hskip hc hspan] at h
        split at h
        · next hlen =>
          obtain ⟨ch, hch, he⟩ := Option.map_eq_some_iff.1 h
          obtain ⟨rfl, rfl⟩ := Prod.mk.inj he
          rw [← List.cons_append] at hspan
          rcases spanFrom_seam (.inl rfl) with hcrossed | heq
          · rw [hspan] at hcrossed
            exact .inl hcrossed
          · obtain ⟨hcode, hrest⟩ := Prod.mk.inj (hspan.symm.trans heq)
            refine .inr ⟨_, hrest, ?_⟩
            rw [hexEscape?_of_spanFrom hcs hc (Prod.ext hcode.symm rfl), if_pos hlen, hch,
              Option.map_some]
        · cases h

/-- What is read after `\b` is read of the text alone, unless a brace is left that begins no count. -/
theorem boundaryEscape?_seam {a : Assertion} (h : boundaryEscape? verbose (cs ++ seam) = some (a, x)) :
    Crossed x ∨ (∃ rest, x = rest ++ seam ∧ boundaryEscape? verbose cs = some (a, rest)) ∨
      LeavesBrace verbose x := by
  rw [boundaryEscape?.eq_def] at h
  split at h
  · next inner heq =>
    obtain ⟨inner, rfl, rfl⟩ := cons_of_append_seam heq (by decide)
    split at h
    · cases h
    · next y hne hspan =>
      obtain ⟨rfl, rfl⟩ := Prod.mk.inj (Option.some.inj h)
      rcases span_seam verbose isBoundaryName inner with hcrossed | hseam
      · -- The name is empty because a comment goes on over the seam.
        have hskip : skip verbose (inner ++ seam) = y :=
          skipFrom_of_spanFrom (fun hcomment => (by cases hcomment)) hspan
        rw [hspan, ← hskip] at hcrossed
        exact .inr (.inr ⟨_, rfl, count?_of_skip (.inl hcrossed)⟩)
      · obtain ⟨hname, hrest⟩ := Prod.mk.inj (hspan.symm.trans hseam)
        cases hy : (span verbose isBoundaryName inner).2 with
        | nil =>
          rw [hy] at hrest
          have hskip : skip verbose (inner ++ seam) = y :=
            skipFrom_of_spanFrom (fun hcomment => (by cases hcomment)) hspan
          exact .inr (.inr ⟨_, rfl, count?_of_skip (.inr (hskip.trans hrest))⟩)
        | cons d rest =>
          refine .inr (.inl ⟨_, rfl, ?_⟩)
          have hspan' : span verbose isBoundaryName inner = ([], d :: rest) := Prod.ext hname.symm hy
          simp only [boundaryEscape?, hspan']
    · next name y hne hspan =>
      obtain ⟨b, hb, he⟩ := Option.map_eq_some_iff.1 h
      obtain ⟨rfl, rfl⟩ := Prod.mk.inj he
      rcases span_brace_seam hspan with hcrossed | ⟨rest, rfl, hspan'⟩
      · exact .inl hcrossed
      · refine .inr (.inl ⟨rest, rfl, ?_⟩)
        simp only [boundaryEscape?, hspan', hb, Option.map_some]
    · cases h
  · next hbrace =>
    obtain ⟨rfl, rfl⟩ := Prod.mk.inj (Option.some.inj h)
    refine .inr (.inl ⟨cs, rfl, ?_⟩)
    rw [boundaryEscape?.eq_def]
    split
    · next inner => exact (hbrace _ rfl).elim
    · rfl

theorem escape?_seam {a : Escape} (h : escape? verbose (cs ++ seam) = some (a, x)) :
    Crossed x ∨ (∃ rest, x = rest ++ seam ∧ escape? verbose cs = some (a, rest)) ∨
      (∃ b, a = .assertion b) ∧ LeavesBrace verbose x := by
  have hmap {f : List Char → Option (Escape × List Char)} (hf : Backed f)
      (h : f (cs.tail ++ seam) = some (a, x)) :
      Crossed x ∨ (∃ rest, x = rest ++ seam ∧ f cs.tail = some (a, rest)) ∨
        (∃ b, a = .assertion b) ∧ LeavesBrace verbose x :=
    (hf h).imp_right .inl
  have hself {e : Escape} (h : some (e, cs.tail ++ seam) = some (a, x)) :
      Crossed x ∨ (∃ rest, x = rest ++ seam ∧ some (e, cs.tail) = some (a, rest)) ∨
        (∃ b, a = .assertion b) ∧ LeavesBrace verbose x := by
    obtain ⟨rfl, rfl⟩ := Prod.mk.inj (Option.some.inj h)
    exact .inr (.inl ⟨cs.tail, rfl, rfl⟩)
  cases cs with
  | nil =>
    obtain ⟨-, rfl⟩ := Prod.mk.inj (Option.some.inj h)
    exact .inl crossed_dollar
  | cons c cs =>
    simp only [List.cons_append, escape?] at h ⊢
    split at h
    case h_1 | h_2 | h_3 => exact hmap ((backed_hexEscape? verbose _).map Escape.char) h
    case h_4 | h_5 => exact hmap ((backed_propertyEscape? verbose).map (Escape.property · _)) h
    case h_20 =>
      obtain ⟨⟨b, y⟩, hb, heq⟩ := Option.map_eq_some_iff.1 h
      obtain ⟨rfl, rfl⟩ := Prod.mk.inj heq
      rcases boundaryEscape?_seam hb with hcrossed | ⟨rest, rfl, hrest⟩ | hbrace
      · exact .inl hcrossed
      · exact .inr (.inl ⟨rest, rfl, by rw [hrest]; rfl⟩)
      · exact .inr (.inr ⟨⟨b, rfl⟩, hbrace⟩)
    case h_24 =>
      split at h
      · next hc =>
        rw [if_pos hc]
        exact hself h
      · cases h
    all_goals exact hself h

/-! ### Groups -/

theorem flagChanges?_seam {changes changes' : FlagChanges} {negated last : Bool}
    (h : flagChanges? changes negated last (cs ++ seam) = some (changes', c, x)) :
    Crossed x ∨ ∃ rest, x = rest ++ seam ∧
      flagChanges? changes negated last cs = some (changes', c, rest) := by
  induction cs generalizing changes negated last with
  | nil =>
    rw [List.nil_append, seam, flagChanges?.eq_def] at h
    cases last with
    | true => cases h
    | false =>
      obtain ⟨-, heq⟩ := Prod.mk.inj (Option.some.inj h)
      obtain ⟨-, rfl⟩ := Prod.mk.inj heq
      exact .inl crossed_dollar
  | cons d cs ih =>
    rw [List.cons_append, flagChanges?.eq_def] at h
    rw [flagChanges?.eq_def]
    simp only at h ⊢
    split at h
    · next hend =>
      rw [if_pos hend]
      cases last with
      | true => cases h
      | false =>
        obtain ⟨rfl, heq⟩ := Prod.mk.inj (Option.some.inj h)
        obtain ⟨rfl, rfl⟩ := Prod.mk.inj heq
        exact .inr ⟨cs, rfl, rfl⟩
    · next hend =>
      rw [if_neg hend]
      split at h
      · next hminus =>
        rw [if_pos hminus]
        cases negated with
        | true => cases h
        | false => exact ih h
      · next hminus =>
        rw [if_neg hminus]
        simp only [Option.bind_eq_bind, Option.bind_eq_some_iff] at h ⊢
        obtain ⟨flag, hflag, u, hguard, h⟩ := h
        refine (ih h).imp_right ?_
        rintro ⟨rest, rfl, hrest⟩
        exact ⟨rest, rfl, flag, hflag, u, hguard, hrest⟩

theorem backed_groupName? : Backed groupName? := by
  intro cs a x h
  rw [groupName?] at h
  cases hdrop : cs.dropWhile (· != '>') with
  | nil =>
    have hnone : (cs ++ seam).dropWhile (· != '>') = [] := by
      rw [List.dropWhile_append, hdrop]
      rfl
    rw [hnone] at h
    split at h
    · next heq => cases heq
    · cases h
  | cons d rest =>
    rw [takeWhile_append_of_cons hdrop, dropWhile_append_of_cons hdrop] at h
    split at h
    · next c name e y htake heq =>
      obtain ⟨rfl, rfl⟩ := List.cons.inj heq
      split at h
      · next hname =>
        obtain ⟨rfl, rfl⟩ := Prod.mk.inj (Option.some.inj h)
        refine .inr ⟨rest, rfl, ?_⟩
        rw [groupName?, htake, hdrop]
        simp only [hname, if_true]
      · cases h
    · cases h

theorem backed_opening? (verbose : Bool) : Backed (opening? verbose) := by
  intro cs o x h
  rw [opening?_eq_some_iff] at h
  rcases h with ⟨y, name, heq, hread, rfl⟩ | ⟨y, changes, ending, heq, hchanges, ho⟩ |
    ⟨hquestion, rfl, rfl⟩
  · have hbefore : ∃ z, y = z ++ seam ∧
        (skip verbose cs = '?' :: 'P' :: '<' :: z ∨ skip verbose cs = '?' :: '<' :: z) := by
      rcases heq with heq | heq
      · obtain ⟨r₁, h₁, hskip⟩ := skip_cons_seam (by decide) (by decide) heq
        obtain ⟨r₂, rfl, h₂⟩ := cons_of_append_seam h₁.symm (by decide)
        obtain ⟨r₃, rfl, rfl⟩ := cons_of_append_seam h₂.symm (by decide)
        exact ⟨r₃, rfl, .inl hskip⟩
      · obtain ⟨r₁, h₁, hskip⟩ := skip_cons_seam (by decide) (by decide) heq
        obtain ⟨r₂, rfl, rfl⟩ := cons_of_append_seam h₁.symm (by decide)
        exact ⟨r₂, rfl, .inr hskip⟩
    obtain ⟨z, rfl, hskip⟩ := hbefore
    refine (backed_groupName? hread).imp_right ?_
    rintro ⟨rest, rfl, hread'⟩
    exact ⟨rest, rfl, opening?_eq_some_iff.2 (.inl ⟨z, name, hskip, hread', rfl⟩)⟩
  · obtain ⟨z, rfl, hskip⟩ := skip_cons_seam (by decide) (by decide) heq
    refine (flagChanges?_seam hchanges).imp_right ?_
    rintro ⟨rest, rfl, hchanges'⟩
    exact ⟨rest, rfl,
      opening?_eq_some_iff.2 (.inr (.inl ⟨z, changes, ending, hskip, hchanges', ho⟩))⟩
  · rcases skip_seam verbose cs with ⟨hcrossed, -⟩ | hskip
    · exact .inl hcrossed
    · have hquestion' (y : List Char) : skip verbose cs ≠ '?' :: y := by
        intro hy
        refine hquestion (y ++ seam) ?_
        rw [hskip, hy, List.cons_append]
      exact .inr ⟨_, hskip, opening?_eq_some_iff.2 (.inr (.inr ⟨hquestion', rfl, rfl⟩))⟩

/-! ### Repetitions -/

theorem lazyMark_seam (cs : List Char) :
    lazyMark (cs ++ seam) = ((lazyMark cs).1, (lazyMark cs).2 ++ seam) := by
  cases cs with
  | nil => rfl
  | cons c cs => exact lazyMark_append seam

theorem lazyMark_of_crossed (h : Crossed cs) : lazyMark cs = (false, cs) := by
  rcases h.cases with rfl | rfl <;> rfl

theorem operator?_seam {lazy : Bool} {count : Count}
    (h : operator? verbose (cs ++ seam) = some (count, lazy, x)) :
    Crossed x ∨ ∃ rest, x = rest ++ seam ∧ operator? verbose cs = some (count, lazy, rest) := by
  have hmark {k : Count} {cs : List Char} (h : some (k, lazyMark (cs ++ seam)) = some (count, lazy, x)) :
      ∃ rest, x = rest ++ seam ∧ some (k, lazyMark cs) = some (count, lazy, rest) := by
    rw [lazyMark_seam] at h
    obtain ⟨rfl, heq⟩ := Prod.mk.inj (Option.some.inj h)
    obtain ⟨rfl, rfl⟩ := Prod.mk.inj heq
    exact ⟨_, rfl, rfl⟩
  rw [operator?.eq_def] at h
  split at h
  · next y heq =>
    obtain ⟨rest, rfl, rfl⟩ := cons_of_append_seam heq (by decide)
    exact .inr (hmark h)
  · next y heq =>
    obtain ⟨rest, rfl, rfl⟩ := cons_of_append_seam heq (by decide)
    exact .inr (hmark h)
  · next y heq =>
    obtain ⟨rest, rfl, rfl⟩ := cons_of_append_seam heq (by decide)
    exact .inr (hmark h)
  · next y heq =>
    obtain ⟨rest, rfl, rfl⟩ := cons_of_append_seam heq (by decide)
    obtain ⟨⟨k, y⟩, hcount, heq⟩ := Option.map_eq_some_iff.1 h
    have hcrossed (hy : Crossed (skip verbose y)) : Crossed x := by
      rw [lazyMark_of_crossed hy] at heq
      obtain ⟨-, heq⟩ := Prod.mk.inj heq
      exact (Prod.mk.inj heq).2 ▸ hy
    rcases backed_count? verbose hcount with hy | ⟨rest', rfl, hcount'⟩
    · exact .inl (hcrossed (hy.suffix (skip_suffix verbose y)))
    · rcases skip_seam verbose rest' with ⟨hy, -⟩ | hskip
      · exact .inl (hcrossed hy)
      · simp only [hskip] at heq
        obtain ⟨rest'', rfl, hrest⟩ := hmark (congrArg some heq)
        refine .inr ⟨rest'', rfl, ?_⟩
        simp only [operator?, hcount', Option.map_some]
        exact hrest
  · cases h

/-! ### Classes -/

theorem caret_seam (cs : List Char) : caret (cs ++ seam) = ((caret cs).1, (caret cs).2 ++ seam) := by
  cases cs with
  | nil => rfl
  | cons c cs => exact caret_append c cs seam

theorem openBracket_seam (verbose : Bool) (r : ClassReading) (cs : List Char) :
    Crossed (openBracket verbose r (cs ++ seam)).2 ∨
      openBracket verbose r (cs ++ seam) =
        ((openBracket verbose r cs).1, (openBracket verbose r cs).2 ++ seam) := by
  have hcross {cs : List Char}
      (h : Crossed (span verbose (· == '-') (caret (skip verbose cs)).2).2) :
      Crossed (openBracket verbose r cs).2 := by
    rw [openBracket_of_span rfl]
    simp only
    split
    · exact h.suffix (List.tail_suffix _)
    · exact h
  rcases skip_seam verbose cs with ⟨hcrossed, -⟩ | hskip
  · refine .inl (hcross (hcrossed.suffix ?_))
    exact (spanFrom_suffix _ _ _ _ _).trans (caret_suffix _)
  · rcases span_seam verbose (· == '-') (caret (skip verbose cs)).2 with hcrossed | hspan
    · refine .inl (hcross ?_)
      rw [hskip, caret_seam]
      exact hcrossed
    · refine .inr ?_
      cases hopen : span verbose (· == '-') (caret (skip verbose cs)).2 with
      | mk hyphens rest =>
        have hopen' : span verbose (· == '-') (caret (skip verbose (cs ++ seam))).2 =
            (hyphens, rest ++ seam) := by
          rw [hskip, caret_seam, hspan, hopen]
        rw [openBracket_of_span hopen', openBracket_of_span hopen, hskip, caret_seam]
        cases rest with
        | nil => simp [seam]
        | cons d rest =>
          by_cases hbracket : hyphens = [] ∧ d = ']'
          · simp [hbracket]
          · simp only [not_and] at hbracket
            by_cases hhyphens : hyphens = []
            · simp [hhyphens, hbracket hhyphens]
            · simp [hhyphens]

theorem asciiClass?_seam {item : ClassSyntax} (h : asciiClass? (cs ++ seam) = some (item, x)) :
    ∃ rest, x = rest ++ seam ∧ asciiClass? cs = some (item, rest) := by
  cases hclass : asciiClass? cs with
  | none =>
    rw [seam, asciiClass?_paren hclass] at h
    cases h
  | some r =>
    rw [asciiClass?_append hclass] at h
    obtain ⟨rfl, rfl⟩ := Prod.mk.inj (Option.some.inj h)
    exact ⟨r.2, rfl, rfl⟩

theorem backed_classItem? (verbose : Bool) : Backed (classItem? verbose) := by
  intro cs a x h
  cases cs with
  | nil =>
    obtain ⟨-, rfl⟩ := Prod.mk.inj (Option.some.inj h)
    exact .inl crossed_dollar
  | cons c cs =>
    by_cases hc : c = '\\'
    · subst hc
      simp only [List.cons_append, classItem?, Option.bind_eq_bind, Option.bind_eq_some_iff] at h ⊢
      obtain ⟨⟨e, y⟩, he, item, hitem, heq⟩ := h
      obtain ⟨rfl, rfl⟩ := Prod.mk.inj (Option.some.inj heq)
      rcases escape?_seam he with hcrossed | ⟨rest, rfl, he'⟩ | ⟨⟨b, rfl⟩, -⟩
      · exact .inl hcrossed
      · exact .inr ⟨rest, rfl, (e, rest), he', item, hitem, rfl⟩
      · cases hitem
    · rw [List.cons_append, classItem?_of_ne hc] at h
      obtain ⟨rfl, rfl⟩ := Prod.mk.inj (Option.some.inj h)
      exact .inr ⟨cs, rfl, classItem?_of_ne hc cs⟩

theorem classItem?_of_crossed {item : ClassSyntax} (h : Crossed cs)
    (hitem : classItem? verbose cs = some (item, x)) : Crossed x := by
  rcases h.cases with rfl | rfl
  · cases hitem
  · obtain ⟨-, rfl⟩ := Prod.mk.inj (Option.some.inj hitem)
    exact crossed_nil

theorem peekFrom_seam {comment : Bool} (h : peekFrom comment cs = none) :
    peekFrom comment (cs ++ seam) = some ')' := by
  induction cs generalizing comment with
  | nil => cases comment <;> rfl
  | cons c cs ih =>
    rw [peekFrom] at h
    rw [List.cons_append, peekFrom]
    split at h
    · next hblank => rw [if_pos hblank, ih h]
    · next hblank =>
      rw [if_neg hblank]
      split at h
      · next hsign => rw [if_pos hsign, ih h]
      · cases h

theorem peek_seam (hc : c = ']' ∨ c = '-') :
    peek verbose (cs ++ seam) = some c ↔ peek verbose cs = some c := by
  constructor
  · intro h
    have hparen : c ≠ ')' := by
      rintro rfl
      rcases hc with hc | hc <;> cases hc
    cases verbose with
    | false =>
      cases cs with
      | nil => exact absurd (Option.some.inj h).symm hparen
      | cons d cs => exact h
    | true =>
      rw [peek, if_pos rfl] at h ⊢
      cases hpeek : peekFrom false cs with
      | none =>
        rw [peekFrom_seam hpeek] at h
        exact absurd (Option.some.inj h).symm hparen
      | some d =>
        rw [peekFrom_append hpeek] at h
        exact h
  · intro h
    exact peek_append_of_eq hc h seam

theorem beginsRange_seam : BeginsRange verbose (cs ++ seam) ↔ BeginsRange verbose cs := by
  rw [BeginsRange, BeginsRange, ne_eq, ne_eq, peek_seam (.inl rfl), peek_seam (.inr rfl)]

theorem backed_classRange? (verbose : Bool) : Backed (classRange? verbose) := by
  intro cs item x h
  obtain ⟨low, y, hlow, h⟩ := classRange?_eq_some_iff.1 h
  -- If the seam has been crossed after the first item, there is no hyphen for a range.
  have hcross (hy : Crossed (skip verbose y)) : Crossed x := by
    rcases h with ⟨-, -, rfl⟩ | ⟨z, a, b, hz, -⟩
    · exact hy
    · rw [hz] at hy
      exact absurd hy.eq_of_cons.1 (by decide)
  rcases backed_classItem? verbose hlow with hy | ⟨y, rfl, hlow'⟩
  · exact .inl (hcross (hy.suffix (skip_suffix verbose y)))
  rcases skip_seam verbose y with ⟨hy, -⟩ | hskip
  · exact .inl (hcross hy)
  rw [hskip] at h
  rcases h with ⟨hsingle, rfl, rfl⟩ | ⟨z, a, b, hz, hbegins, rfl, hhigh, hle, rfl⟩
  · have hsingle' (z : List Char) (hz : skip verbose y = '-' :: z) : ¬ BeginsRange verbose z := by
      intro hbegins
      refine hsingle (z ++ seam) ?_ (beginsRange_seam.2 hbegins)
      rw [hz, List.cons_append]
    exact .inr ⟨_, rfl, classRange?_eq_some_iff.2 ⟨_, y, hlow', .inl ⟨hsingle', rfl, rfl⟩⟩⟩
  · obtain ⟨z, hz', rfl⟩ := cons_of_append_seam hz (by decide)
    rcases skip_seam verbose z with ⟨hcrossed, -⟩ | hskip'
    · exact .inl (classItem?_of_crossed hcrossed hhigh)
    · rw [hskip'] at hhigh
      refine (backed_classItem? verbose hhigh).imp_right ?_
      rintro ⟨rest, rfl, hhigh'⟩
      exact ⟨rest, rfl, classRange?_eq_some_iff.2
        ⟨_, y, hlow', .inr ⟨z, a, b, hz', beginsRange_seam.1 hbegins, rfl, hhigh', hle, rfl⟩⟩⟩

/-! ### Lexemes -/

theorem Reader.backed_inside (r : Reader) (c : ClassReading) : Backed (r.inside c) := by
  intro cs a x h
  cases cs with
  | nil =>
    have hne : ')' ∈ ['&', '-', '~'] → ['$'].head? ≠ some ')' := by decide
    rw [List.nil_append, seam, inside_of_ne (by decide) (by decide) hne] at h
    obtain ⟨⟨item, y⟩, hrange, heq⟩ := Option.map_eq_some_iff.1 h
    obtain ⟨rfl, rfl⟩ := Prod.mk.inj heq
    rcases @backed_classRange? r.verbose [] _ _ hrange with hcrossed | ⟨rest, -, hnone⟩
    · exact .inl hcrossed
    · cases hnone
  | cons d cs =>
    by_cases hopen : d = '['
    · subst hopen
      simp only [inside, List.cons_append] at h ⊢
      cases hascii : asciiClass? (cs ++ seam) with
      | some item =>
        obtain ⟨rest, hrest, hascii'⟩ := asciiClass?_seam hascii
        rw [hascii] at h
        obtain ⟨rfl, rfl⟩ := Prod.mk.inj (Option.some.inj h)
        exact .inr ⟨rest, hrest, by rw [hascii']⟩
      | none =>
        have hascii' : asciiClass? cs = none := by
          cases hclass : asciiClass? cs with
          | none => rfl
          | some item =>
            rw [asciiClass?_append hclass] at hascii
            cases hascii
        rw [hascii] at h
        obtain ⟨rfl, rfl⟩ := Prod.mk.inj (Option.some.inj h)
        rcases openBracket_seam r.verbose c cs with hcrossed | heq
        · exact .inl hcrossed
        · refine .inr ⟨_, congrArg Prod.snd heq, ?_⟩
          rw [hascii', heq]
    · by_cases hclose : d = ']'
      · subst hclose
        simp only [inside, List.cons_append] at h ⊢
        obtain ⟨r', hr, heq⟩ := Option.map_eq_some_iff.1 h
        obtain ⟨rfl, rfl⟩ := Prod.mk.inj heq
        exact .inr ⟨cs, rfl, by rw [hr, Option.map_some]⟩
      · by_cases hop : d ∈ ['&', '-', '~'] ∧ cs.head? = some d
        · obtain ⟨hd, hhead⟩ := hop
          obtain ⟨cs, rfl⟩ := List.head?_eq_some_iff.1 hhead
          simp only [List.mem_cons, List.not_mem_nil, or_false] at hd
          rcases hd with rfl | rfl | rfl
          all_goals
            obtain ⟨rfl, rfl⟩ := Prod.mk.inj (Option.some.inj h)
            exact .inr ⟨cs, rfl, rfl⟩
        · have hop' : d ∈ ['&', '-', '~'] → (cs ++ seam).head? ≠ some d := by
            intro hd hhead
            cases cs with
            | nil =>
              obtain rfl : ')' = d := Option.some.inj hhead
              revert hd
              decide
            | cons e cs => exact hop ⟨hd, hhead⟩
          rw [List.cons_append, inside_of_ne hopen hclose hop', ← List.cons_append] at h
          rw [inside_of_ne hopen hclose fun hd hhead => hop ⟨hd, hhead⟩]
          exact (backed_classRange? r.verbose).map (fun i => r.continueClass (c.push i)) h

/-- Outside of classes, a lexeme is read of the text alone, unless the seam is crossed or a brace is left at
which no lexeme begins. -/
theorem lexeme?_seam {l : Lexeme} (h : lexeme? verbose (c :: cs ++ seam) = some (l, x)) :
    Crossed x ∨ (∃ rest, x = rest ++ seam ∧ lexeme? verbose (c :: cs) = some (l, rest)) ∨
      (∃ b, l = .part (.assertion b)) ∧ LeavesBrace verbose x := by
  have hself {l' : Lexeme} (h : some (l', cs ++ seam) = some (l, x)) :
      Crossed x ∨ (∃ rest, x = rest ++ seam ∧ some (l', cs) = some (l, rest)) ∨
        (∃ b, l = .part (.assertion b)) ∧ LeavesBrace verbose x := by
    obtain ⟨rfl, rfl⟩ := Prod.mk.inj (Option.some.inj h)
    exact .inr (.inl ⟨cs, rfl, rfl⟩)
  simp only [List.cons_append, lexeme?] at h ⊢
  split at h
  case h_1 => exact ((backed_opening? verbose).map Lexeme.enter h).imp_right .inl
  case h_4 =>
    obtain ⟨rfl, rfl⟩ := Prod.mk.inj (Option.some.inj h)
    rcases openBracket_seam verbose ⟨[], []⟩ cs with hcrossed | heq
    · exact .inl hcrossed
    · refine .inr (.inl ⟨_, congrArg Prod.snd heq, ?_⟩)
      rw [heq]
  case h_5 =>
    obtain ⟨⟨e, y⟩, he, heq⟩ := Option.map_eq_some_iff.1 h
    obtain ⟨rfl, rfl⟩ := Prod.mk.inj heq
    rcases escape?_seam he with hcrossed | ⟨rest, rfl, he'⟩ | ⟨⟨b, rfl⟩, hbrace⟩
    · exact .inl hcrossed
    · exact .inr (.inl ⟨rest, rfl, by rw [he']; rfl⟩)
    · exact .inr (.inr ⟨⟨b, rfl⟩, hbrace⟩)
  case h_9 =>
    split at h
    · next hop =>
      obtain ⟨⟨count, lazy, y⟩, ho, heq⟩ := Option.map_eq_some_iff.1 h
      obtain ⟨rfl, rfl⟩ := Prod.mk.inj heq
      rw [← List.cons_append] at ho
      rcases operator?_seam ho with hcrossed | ⟨rest, rfl, ho'⟩
      · exact .inl hcrossed
      · refine .inr (.inl ⟨rest, rfl, ?_⟩)
        rw [if_pos hop, ho', Option.map_some]
    · next hop =>
      rw [if_neg hop]
      exact hself h
  all_goals exact hself h

end Regex

end RoutePatterns
