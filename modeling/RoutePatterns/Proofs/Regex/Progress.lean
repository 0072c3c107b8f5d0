import RoutePatterns.Proofs.Regex.Step

/-!
# Every lexeme takes a character

What a lexeme leaves of a text is an end of it that does not reach back to the first character
(`Reader.step_suffix`), so a text has at most as many lexemes as characters. A part of a lexeme may be
empty: what it leaves is some end of the text (`Consumes`).
-/

namespace RoutePatterns

namespace Regex

/-- What is left of a text is an end of it. -/
def Consumes {α : Type} (f : List Char → Option (α × List Char)) : Prop :=
  ∀ ⦃cs a rest⦄, f cs = some (a, rest) → rest <:+ cs

variable {α β : Type} {verbose : Bool} {cs rest : List Char} {c : Char}

theorem Consumes.map {f : List Char → Option (α × List Char)} (hf : Consumes f) (g : α → β) :
    Consumes fun cs => (f cs).map fun r => (g r.1, r.2) := by
  intro cs b rest h
  obtain ⟨⟨a, rest'⟩, ha, hb⟩ := Option.map_eq_some_iff.1 h
  obtain ⟨rfl, rfl⟩ := Prod.mk.inj hb
  exact hf ha

theorem suffix_of_cons (h : c :: rest <:+ cs) : rest <:+ cs := (List.suffix_cons c rest).trans h

/-! ### Blanks, spans and numbers -/

theorem skipFrom_suffix (verbose comment : Bool) (cs : List Char) :
    skipFrom verbose comment cs <:+ cs := by
  induction cs generalizing comment with
  | nil => exact List.suffix_rfl
  | cons c cs ih =>
    rw [skipFrom_cons]
    cases verbose with
    | false => exact List.suffix_rfl
    | true =>
      cases passed true comment c with
      | some comment' => exact (ih comment').trans (List.suffix_cons c cs)
      | none => exact List.suffix_rfl

theorem skip_suffix (verbose : Bool) (cs : List Char) : skip verbose cs <:+ cs :=
  skipFrom_suffix verbose false cs

theorem spanFrom_suffix (verbose comment : Bool) (p : Char → Bool) (limit : Nat) (cs : List Char) :
    (spanFrom verbose p limit comment cs).2 <:+ cs := by
  induction cs generalizing comment limit with
  | nil => exact List.suffix_rfl
  | cons c cs ih =>
    rw [spanFrom_cons]
    cases passed verbose comment c with
    | some comment' => exact (ih comment' limit).trans (List.suffix_cons c cs)
    | none =>
      cases limit with
      | zero => exact List.suffix_rfl
      | succ limit =>
        simp only
        split
        · exact (ih false limit).trans (List.suffix_cons c cs)
        · exact List.suffix_rfl

theorem decimal_suffix (verbose : Bool) (cs : List Char) : (decimal verbose cs).2 <:+ cs := by
  have hspan := spanFrom_suffix verbose false Char.isDigit (cs.dropWhile Unicode.isBlank).length
    (cs.dropWhile Unicode.isBlank)
  exact (List.dropWhile_suffix _).trans (hspan.trans (List.dropWhile_suffix _))

theorem suffix_of_decimal_skip {n : Option Nat}
    (h : decimal verbose (skip verbose cs) = (n, c :: rest)) : rest <:+ cs := by
  have hsuffix := (decimal_suffix verbose (skip verbose cs)).trans (skip_suffix verbose cs)
  rw [h] at hsuffix
  exact suffix_of_cons hsuffix

theorem consumes_count? (verbose : Bool) : Consumes (count? verbose) := by
  intro cs k rest h
  obtain ⟨min, ⟨hmin, -⟩ | ⟨y, hmin, hmax⟩⟩ := count?_eq_some_iff.1 h
  · exact suffix_of_decimal_skip hmin
  · refine List.IsSuffix.trans ?_ (suffix_of_decimal_skip hmin)
    rcases hmax with ⟨hy, -⟩ | ⟨max, hmax, -⟩
    · exact suffix_of_cons (hy ▸ skip_suffix verbose y)
    · exact suffix_of_decimal_skip hmax

/-! ### Escapes -/

theorem suffix_of_span {p : Char → Bool} {taken : List Char}
    (h : span verbose p cs = (taken, rest)) : rest <:+ cs := by
  have hsuffix := spanFrom_suffix verbose false p cs.length cs
  rwa [← span, h] at hsuffix

theorem consumes_hexEscape? (verbose : Bool) (digits : Nat) :
    Consumes (hexEscape? verbose digits) := by
  intro cs a rest h
  have hskip := skip_suffix verbose cs
  rw [hexEscape?] at h
  split at h
  · next heq =>
    rw [heq] at hskip
    split at h
    · next hspan =>
      obtain ⟨ch, -, he⟩ := Option.map_eq_some_iff.1 h
      obtain ⟨-, rfl⟩ := Prod.mk.inj he
      exact (suffix_of_cons (suffix_of_span hspan)).trans (suffix_of_cons hskip)
    · cases h
  · simp only [Option.bind_eq_bind, Option.bind_eq_some_iff] at h
    obtain ⟨-, -, ch, -, he⟩ := h
    obtain ⟨-, rfl⟩ := Prod.mk.inj (Option.some.inj he)
    exact (spanFrom_suffix _ _ _ _ _).trans hskip

theorem consumes_propertyEscape? (verbose : Bool) : Consumes (propertyEscape? verbose) := by
  intro cs a rest h
  have hskip := skip_suffix verbose cs
  rw [propertyEscape?] at h
  split at h
  · next heq =>
    rw [heq] at hskip
    split at h
    · next hspan =>
      obtain ⟨-, rfl⟩ := Prod.mk.inj (Option.some.inj h)
      exact (suffix_of_cons (suffix_of_span hspan)).trans (suffix_of_cons hskip)
    · cases h
  · cases h
  · next heq =>
    obtain ⟨-, rfl⟩ := Prod.mk.inj (Option.some.inj h)
    rw [heq] at hskip
    exact suffix_of_cons hskip
  · cases h

theorem consumes_boundaryEscape? (verbose : Bool) : Consumes (boundaryEscape? verbose) := by
  intro cs a rest h
  rw [boundaryEscape?.eq_def] at h
  split at h
  · next inner =>
    split at h
    · cases h
    · obtain ⟨-, rfl⟩ := Prod.mk.inj (Option.some.inj h)
      exact List.suffix_rfl
    · next hspan =>
      obtain ⟨b, -, he⟩ := Option.map_eq_some_iff.1 h
      obtain ⟨-, rfl⟩ := Prod.mk.inj he
      exact (suffix_of_cons (suffix_of_span hspan)).trans (List.suffix_cons _ inner)
    · cases h
  · obtain ⟨-, rfl⟩ := Prod.mk.inj (Option.some.inj h)
    exact List.suffix_rfl

/-- An escape takes the character after the backslash. -/
theorem escape?_suffix {e : Escape} (h : escape? verbose (c :: cs) = some (e, rest)) :
    rest <:+ cs := by
  have hself {e' : Escape} (h : some (e', cs) = some (e, rest)) : rest <:+ cs := by
    obtain ⟨-, rfl⟩ := Prod.mk.inj (Option.some.inj h)
    exact List.suffix_rfl
  simp only [escape?] at h
  split at h
  case h_1 | h_2 | h_3 => exact (consumes_hexEscape? verbose _).map Escape.char h
  case h_4 | h_5 => exact (consumes_propertyEscape? verbose).map (Escape.property · _) h
  case h_20 => exact (consumes_boundaryEscape? verbose).map Escape.assertion h
  case h_24 =>
    split at h
    · exact hself h
    · cases h
  all_goals exact hself h

/-! ### Groups and repetitions -/

theorem flagChanges?_suffix {changes changes' : FlagChanges} {negated last : Bool}
    (h : flagChanges? changes negated last cs = some (changes', c, rest)) : rest <:+ cs := by
  induction cs generalizing changes negated last with
  | nil => cases h
  | cons d cs ih =>
    refine List.IsSuffix.trans ?_ (List.suffix_cons d cs)
    rw [flagChanges?.eq_def] at h
    simp only at h
    split at h
    · cases last with
      | true => cases h
      | false =>
        obtain ⟨-, heq⟩ := Prod.mk.inj (Option.some.inj h)
        obtain ⟨-, rfl⟩ := Prod.mk.inj heq
        exact List.suffix_rfl
    · split at h
      · cases negated with
        | true => cases h
        | false => exact ih h
      · simp only [Option.bind_eq_bind, Option.bind_eq_some_iff] at h
        obtain ⟨flag, -, u, -, h⟩ := h
        exact ih h

theorem consumes_groupName? : Consumes groupName? := by
  intro cs a rest h
  rw [groupName?] at h
  split at h
  · next hdrop =>
    split at h
    · obtain ⟨-, rfl⟩ := Prod.mk.inj (Option.some.inj h)
      exact suffix_of_cons (hdrop ▸ List.dropWhile_suffix _)
    · cases h
  · cases h

theorem consumes_opening? (verbose : Bool) : Consumes (opening? verbose) := by
  intro cs o rest h
  have hskip := skip_suffix verbose cs
  rcases opening?_eq_some_iff.1 h with ⟨y, name, heq | heq, hread, -⟩ |
    ⟨y, changes, ending, heq, hchanges, -⟩ | ⟨-, -, rfl⟩
  · rw [heq] at hskip
    exact (consumes_groupName? hread).trans (suffix_of_cons (suffix_of_cons (suffix_of_cons hskip)))
  · rw [heq] at hskip
    exact (consumes_groupName? hread).trans (suffix_of_cons (suffix_of_cons hskip))
  · rw [heq] at hskip
    exact (flagChanges?_suffix hchanges).trans (suffix_of_cons hskip)
  · exact hskip

theorem lazyMark_suffix (cs : List Char) : (lazyMark cs).2 <:+ cs := by
  rw [lazyMark.eq_def]
  split
  · exact List.suffix_cons _ _
  · exact List.suffix_rfl

/-- An operator takes its first character. -/
theorem operator?_suffix {count : Count} {lazy : Bool}
    (h : operator? verbose (c :: cs) = some (count, lazy, rest)) : rest <:+ cs := by
  have hmark {k : Count} {x : List Char} (hx : x <:+ cs)
      (h : some (k, lazyMark x) = some (count, lazy, rest)) : rest <:+ cs := by
    have hrest : (lazyMark x).2 = rest := congrArg (fun r => r.2.2) (Option.some.inj h)
    exact hrest ▸ (lazyMark_suffix x).trans hx
  rw [operator?.eq_def] at h
  split at h
  case h_4 heq =>
    obtain ⟨-, rfl⟩ := List.cons.inj heq
    obtain ⟨⟨k, x⟩, hcount, he⟩ := Option.map_eq_some_iff.1 h
    exact hmark ((skip_suffix verbose x).trans (consumes_count? verbose hcount)) (congrArg some he)
  case h_5 => cases h
  all_goals
    next heq =>
    obtain ⟨-, rfl⟩ := List.cons.inj heq
    exact hmark List.suffix_rfl h

/-! ### Classes -/

theorem caret_suffix (cs : List Char) : (caret cs).2 <:+ cs := by
  rw [caret.eq_def]
  split
  · exact List.suffix_cons _ _
  · exact List.suffix_rfl

theorem openBracket_suffix (verbose : Bool) (r : ClassReading) (cs : List Char) :
    (openBracket verbose r cs).2 <:+ cs := by
  have hspan : (span verbose (· == '-') (caret (skip verbose cs)).2).2 <:+ cs :=
    (suffix_of_span rfl).trans ((caret_suffix _).trans (skip_suffix verbose cs))
  rw [openBracket_of_span rfl]
  simp only
  split
  · exact (List.tail_suffix _).trans hspan
  · exact hspan

theorem consumes_asciiClass? : Consumes asciiClass? := by
  intro cs item rest h
  cases cs with
  | nil => cases h
  | cons d cs =>
    by_cases hd : d = ':'
    · subst hd
      rw [asciiClass?_colon] at h
      split at h
      · next hdrop =>
        obtain ⟨name, -, he⟩ := Option.map_eq_some_iff.1 h
        obtain ⟨-, rfl⟩ := Prod.mk.inj he
        have hcaret : ':' :: ']' :: _ <:+ (caret cs).2 := hdrop ▸ List.dropWhile_suffix (· != ':')
        replace hcaret := hcaret.trans (caret_suffix cs)
        exact (suffix_of_cons (suffix_of_cons hcaret)).trans (List.suffix_cons ':' cs)
      · cases h
    · rw [asciiClass?_of_ne hd] at h
      cases h

theorem classItem?_suffix {item : ClassSyntax}
    (h : classItem? verbose (c :: cs) = some (item, rest)) : rest <:+ cs := by
  by_cases hc : c = '\\'
  · subst hc
    simp only [classItem?, Option.bind_eq_bind, Option.bind_eq_some_iff] at h
    obtain ⟨⟨e, rest'⟩, he, item', -, heq⟩ := h
    obtain ⟨-, rfl⟩ := Prod.mk.inj (Option.some.inj heq)
    cases cs with
    | nil => cases he
    | cons d cs => exact (escape?_suffix he).trans (List.suffix_cons d cs)
  · rw [classItem?_of_ne hc] at h
    obtain ⟨-, rfl⟩ := Prod.mk.inj (Option.some.inj h)
    exact List.suffix_rfl

theorem consumes_classItem? (verbose : Bool) : Consumes (classItem? verbose) := by
  intro cs item rest h
  cases cs with
  | nil => cases h
  | cons c cs => exact (classItem?_suffix h).trans (List.suffix_cons c cs)

theorem classRange?_suffix {item : ClassSyntax}
    (h : classRange? verbose (c :: cs) = some (item, rest)) : rest <:+ cs := by
  obtain ⟨low, y, hlow, h⟩ := classRange?_eq_some_iff.1 h
  have hskip := (skip_suffix verbose y).trans (classItem?_suffix hlow)
  rcases h with ⟨-, -, rfl⟩ | ⟨z, a, b, hz, -, -, hhigh, -⟩
  · exact hskip
  · have hrest := (consumes_classItem? verbose hhigh).trans (skip_suffix verbose z)
    exact hrest.trans (suffix_of_cons (hz ▸ hskip))

/-! ### Lexemes -/

theorem Reader.inside_suffix {r r' : Reader} {k : ClassReading}
    (h : r.inside k (c :: cs) = some (r', rest)) : rest <:+ cs := by
  rw [inside.eq_def] at h
  split at h
  case h_1 heq => cases heq
  case h_2 heq =>
    obtain ⟨-, rfl⟩ := List.cons.inj heq
    split at h
    · next hascii =>
      obtain ⟨-, rfl⟩ := Prod.mk.inj (Option.some.inj h)
      exact consumes_asciiClass? hascii
    · obtain ⟨-, rfl⟩ := Prod.mk.inj (Option.some.inj h)
      exact openBracket_suffix _ _ _
  case h_3 heq =>
    obtain ⟨-, rfl⟩ := List.cons.inj heq
    obtain ⟨r'', -, he⟩ := Option.map_eq_some_iff.1 h
    obtain ⟨-, rfl⟩ := Prod.mk.inj he
    exact List.suffix_rfl
  case h_7 =>
    obtain ⟨i, hrange, he⟩ := Option.map_eq_some_iff.1 h
    obtain ⟨-, rfl⟩ := Prod.mk.inj he
    exact classRange?_suffix hrange
  all_goals
    next heq =>
    obtain ⟨-, rfl⟩ := List.cons.inj heq
    obtain ⟨-, rfl⟩ := Prod.mk.inj (Option.some.inj h)
    exact List.suffix_cons _ _

theorem lexeme?_suffix {l : Lexeme} (h : lexeme? verbose (c :: cs) = some (l, rest)) :
    rest <:+ cs := by
  have hself {l' : Lexeme} (h : some (l', cs) = some (l, rest)) : rest <:+ cs := by
    obtain ⟨-, rfl⟩ := Prod.mk.inj (Option.some.inj h)
    exact List.suffix_rfl
  simp only [lexeme?] at h
  split at h
  case h_1 => exact (consumes_opening? verbose).map Lexeme.enter h
  case h_4 =>
    obtain ⟨-, rfl⟩ := Prod.mk.inj (Option.some.inj h)
    exact openBracket_suffix verbose _ cs
  case h_5 =>
    obtain ⟨e, he, heq⟩ := Option.map_eq_some_iff.1 h
    obtain ⟨-, rfl⟩ := Prod.mk.inj heq
    cases cs with
    | nil => cases he
    | cons d cs => exact (escape?_suffix he).trans (List.suffix_cons d cs)
  case h_9 =>
    split at h
    · obtain ⟨o, ho, heq⟩ := Option.map_eq_some_iff.1 h
      obtain ⟨-, rfl⟩ := Prod.mk.inj heq
      exact operator?_suffix ho
    · exact hself h
  all_goals exact hself h

/-- **A lexeme takes the first character**, and what it leaves is the end of the text. -/
theorem Reader.step_suffix {r r' : Reader} (h : r.step (c :: cs) = some (r', rest)) :
    rest <:+ cs := by
  rw [step] at h
  split at h
  · rw [outside_eq] at h
    obtain ⟨⟨l, rest'⟩, hl, h⟩ := Option.bind_eq_some_iff.1 h
    obtain ⟨r'', -, heq⟩ := Option.map_eq_some_iff.1 h
    obtain ⟨-, rfl⟩ := Prod.mk.inj heq
    exact lexeme?_suffix hl
  · exact inside_suffix h

end Regex

end RoutePatterns
