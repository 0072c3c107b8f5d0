import Mathlib.Data.List.Basic
import Mathlib.Data.Option.Basic
import RoutePatterns.Regex.Reader

/-!
# Lexemes before a closing parenthesis

A text in a group is followed by a closing parenthesis. This module shows that the parenthesis does
not change how the escapes, the groups and the repetitions of the text are read (`stable_escape?`,
`stable_opening?`, `operator?_paren`), with one exception: where blanks and comments are passed over, a
comment that is still open at the end of the text takes the parenthesis with it (`skip_cases`).

`Firm f` says that what `f` reads does not depend on what follows at all; `Stable f` says that it does
not depend on what follows a closing parenthesis, unless a comment is open.
-/

namespace RoutePatterns

namespace Regex

variable {α β : Type}

/-- What is read does not depend on the text after it. -/
def Firm (f : List Char → Option (α × List Char)) : Prop :=
  ∀ ⦃cs a rest⦄, f cs = some (a, rest) → ∀ t, f (cs ++ t) = some (a, rest ++ t)

/-- What is read does not change if a closing parenthesis follows; or else all the text is read, and
the parenthesis and the rest of its line are passed over as a part of a comment. -/
def Stable (f : List Char → Option (α × List Char)) : Prop :=
  ∀ ⦃cs a rest⦄, f cs = some (a, rest) →
    (∀ t, f (cs ++ ')' :: t) = some (a, rest ++ ')' :: t)) ∨
      rest = [] ∧ ∀ t, '\n' ∉ t → f (cs ++ ')' :: t) = some (a, [])

theorem Firm.stable {f : List Char → Option (α × List Char)} (hf : Firm f) : Stable f :=
  fun _ _ _ h => .inl fun t => hf h (')' :: t)

theorem Firm.map {f : List Char → Option (α × List Char)} (hf : Firm f) (g : α → β) :
    Firm fun cs => (f cs).map fun r => (g r.1, r.2) := by
  intro cs b rest h t
  obtain ⟨⟨a, rest'⟩, ha, hb⟩ := Option.map_eq_some_iff.1 h
  obtain ⟨rfl, rfl⟩ := Prod.mk.inj hb
  simp only [hf ha t, Option.map_some]

theorem Stable.map {f : List Char → Option (α × List Char)} (hf : Stable f) (g : α → β) :
    Stable fun cs => (f cs).map fun r => (g r.1, r.2) := by
  intro cs b rest h
  obtain ⟨⟨a, rest'⟩, ha, hb⟩ := Option.map_eq_some_iff.1 h
  obtain ⟨rfl, rfl⟩ := Prod.mk.inj hb
  rcases hf ha with hparen | ⟨hrest, hparen⟩
  · exact .inl fun t => by simp only [hparen t, Option.map_some]
  · exact .inr ⟨hrest, fun t ht => by simp only [hparen t ht, Option.map_some]⟩

/-- If something is left, the parenthesis is far from what is read. -/
theorem Stable.of_cons {f : List Char → Option (α × List Char)} (hf : Stable f) {cs : List Char}
    {a : α} {c : Char} {rest : List Char} (h : f cs = some (a, c :: rest)) (t : List Char) :
    f (cs ++ ')' :: t) = some (a, c :: rest ++ ')' :: t) := by
  rcases hf h with hparen | ⟨hrest, -⟩
  · exact hparen t
  · cases hrest

/-! ### Blanks and comments -/

/-- A character that is passed over: whether a comment is open after it. -/
def passed (verbose comment : Bool) (c : Char) : Option Bool :=
  if comment then some (c != '\n')
  else if verbose && Unicode.isBlank c then some false
  else if verbose && c == '#' then some true
  else none

theorem passed_paren (verbose : Bool) : passed verbose false ')' = none := by
  cases verbose <;> rfl

theorem skipFrom_cons {verbose comment : Bool} {c : Char} {cs : List Char} :
    skipFrom verbose comment (c :: cs) =
      if verbose then
        match passed verbose comment c with
        | some comment => skipFrom verbose comment cs
        | none => c :: cs
      else c :: cs := by
  rw [skipFrom, passed]
  cases verbose with
  | false => rfl
  | true =>
    cases comment with
    | true => rfl
    | false =>
      cases Unicode.isBlank c with
      | true => rfl
      | false => cases c == '#' <;> rfl

theorem spanFrom_cons {verbose comment : Bool} {p : Char → Bool} {limit : Nat} {c : Char}
    {cs : List Char} :
    spanFrom verbose p limit comment (c :: cs) =
      match passed verbose comment c with
      | some comment => spanFrom verbose p limit comment cs
      | none =>
        match limit with
        | 0 => ([], c :: cs)
        | limit + 1 =>
          if p c then
            (c :: (spanFrom verbose p limit false cs).1, (spanFrom verbose p limit false cs).2)
          else ([], c :: cs) := by
  rw [spanFrom.eq_def, passed]
  cases comment with
  | true => rfl
  | false =>
    cases h : verbose && Unicode.isBlank c with
    | true => simp [h]
    | false =>
      cases h' : verbose && c == '#' with
      | true => simp [h, h']
      | false => cases limit <;> simp [h, h']

theorem skipFrom_append {verbose comment : Bool} {cs : List Char} {c : Char} {rest : List Char}
    (h : skipFrom verbose comment cs = c :: rest) (t : List Char) :
    skipFrom verbose comment (cs ++ t) = c :: (rest ++ t) := by
  induction cs generalizing comment with
  | nil => simp [skipFrom] at h
  | cons d cs ih =>
    rw [skipFrom_cons] at h
    rw [List.cons_append, skipFrom_cons]
    cases verbose with
    | false => simpa using congrArg (· ++ t) h
    | true =>
      cases hd : passed true comment d with
      | some comment' =>
        simp only [hd, if_true] at h ⊢
        exact ih h
      | none =>
        simp only [hd, if_true] at h ⊢
        simpa using congrArg (· ++ t) h

/-- A comment goes on to the end of its line. -/
theorem skipFrom_comment {cs : List Char} (h : '\n' ∉ cs) : skipFrom true true cs = [] := by
  induction cs with
  | nil => rfl
  | cons c cs ih =>
    have hopen : passed true true c = some true := by
      simp [passed, (List.ne_of_not_mem_cons h).symm]
    rw [skipFrom_cons, hopen]
    exact ih (List.not_mem_of_not_mem_cons h)

theorem spanFrom_comment {verbose : Bool} {p : Char → Bool} {limit : Nat} {cs : List Char}
    (h : '\n' ∉ cs) : spanFrom verbose p limit true cs = ([], []) := by
  induction cs with
  | nil => rfl
  | cons c cs ih =>
    have hopen : passed verbose true c = some true := by
      simp [passed, (List.ne_of_not_mem_cons h).symm]
    rw [spanFrom_cons, hopen]
    exact ih (List.not_mem_of_not_mem_cons h)

theorem not_mem_paren_cons {cs : List Char} (h : '\n' ∉ cs) : '\n' ∉ ')' :: cs :=
  List.not_mem_cons_of_ne_of_not_mem (by decide) h

theorem skipFrom_append_paren {verbose comment : Bool} {cs : List Char}
    (h : skipFrom verbose comment cs = []) :
    (∀ t, skipFrom verbose comment (cs ++ ')' :: t) = ')' :: t) ∨
      ∀ t, '\n' ∉ t → skipFrom verbose comment (cs ++ ')' :: t) = [] := by
  induction cs generalizing comment with
  | nil =>
    cases verbose with
    | false => exact .inl fun t => rfl
    | true =>
      cases comment with
      | false => exact .inl fun t => rfl
      | true => exact .inr fun t ht => skipFrom_comment (not_mem_paren_cons ht)
  | cons d cs ih =>
    rw [skipFrom_cons] at h
    simp only [List.cons_append, skipFrom_cons]
    cases verbose with
    | false => simp at h
    | true =>
      cases hd : passed true comment d with
      | some comment' =>
        simp only [hd, if_true] at h ⊢
        exact ih h
      | none => simp [hd] at h

/-- Either something is left after blanks and comments, or the parenthesis is, or a comment is
open. -/
theorem skip_cases (verbose : Bool) (cs : List Char) :
    (∃ c rest, skip verbose cs = c :: rest ∧ ∀ t, skip verbose (cs ++ t) = c :: (rest ++ t)) ∨
      skip verbose cs = [] ∧
        ((∀ t, skip verbose (cs ++ ')' :: t) = ')' :: t) ∨
          ∀ t, '\n' ∉ t → skip verbose (cs ++ ')' :: t) = []) := by
  cases h : skip verbose cs with
  | nil => exact .inr ⟨rfl, skipFrom_append_paren h⟩
  | cons c rest => exact .inl ⟨c, rest, rfl, skipFrom_append h⟩

/-- Two limits that do not cut off the characters of a text differently. -/
def SameLimit (cs : List Char) (limit limit' : Nat) : Prop :=
  limit = limit' ∨ cs.length ≤ limit ∧ cs.length ≤ limit'

theorem SameLimit.tail {c : Char} {cs : List Char} {limit limit' : Nat}
    (h : SameLimit (c :: cs) limit limit') : SameLimit cs limit limit' :=
  h.imp_right fun h => ⟨Nat.le_of_succ_le h.1, Nat.le_of_succ_le h.2⟩

/-- Either both limits are used up, or both go on for the characters after the first one. -/
theorem SameLimit.cases {c : Char} {cs : List Char} {limit limit' : Nat}
    (h : SameLimit (c :: cs) limit limit') :
    limit = 0 ∧ limit' = 0 ∨ ∃ n m, limit = n + 1 ∧ limit' = m + 1 ∧ SameLimit cs n m := by
  rcases h with rfl | ⟨h, h'⟩
  · cases limit with
    | zero => exact .inl ⟨rfl, rfl⟩
    | succ n => exact .inr ⟨n, n, rfl, rfl, .inl rfl⟩
  · rw [List.length_cons] at h h'
    exact .inr ⟨limit - 1, limit' - 1, by omega, by omega, .inr ⟨by omega, by omega⟩⟩

theorem spanFrom_append {verbose comment : Bool} {p : Char → Bool} {limit limit' : Nat}
    {cs taken rest : List Char} {c : Char}
    (h : spanFrom verbose p limit comment cs = (taken, c :: rest))
    (hl : SameLimit cs limit limit') (t : List Char) :
    spanFrom verbose p limit' comment (cs ++ t) = (taken, c :: (rest ++ t)) := by
  -- The limit may be the length of the text, which grows when text is appended.
  induction cs generalizing comment limit limit' taken with
  | nil => simp [spanFrom] at h
  | cons d cs ih =>
    rw [spanFrom_cons] at h
    rw [List.cons_append, spanFrom_cons]
    cases hd : passed verbose comment d with
    | some comment' =>
      simp only [hd] at h ⊢
      exact ih h hl.tail
    | none =>
      simp only [hd] at h ⊢
      rcases hl.cases with ⟨rfl, rfl⟩ | ⟨n, m, rfl, rfl, hl'⟩
      · simp only [Prod.mk.injEq, List.cons.injEq] at h ⊢
        obtain ⟨h₁, h₂, h₃⟩ := h
        exact ⟨h₁, h₂, by rw [h₃]⟩
      · cases hp : p d with
        | true =>
          simp only [hp, if_true, Prod.mk.injEq] at h ⊢
          obtain ⟨h₁, h₂⟩ := h
          rw [ih (Prod.ext rfl h₂) hl']
          exact ⟨h₁, rfl⟩
        | false =>
          simp only [hp, Bool.false_eq_true, if_false, Prod.mk.injEq, List.cons.injEq] at h ⊢
          obtain ⟨h₁, h₂, h₃⟩ := h
          exact ⟨h₁, h₂, by rw [h₃]⟩

theorem spanFrom_append_paren {verbose comment : Bool} {p : Char → Bool} (hp : p ')' = false)
    {limit : Nat} {cs taken : List Char} (h : spanFrom verbose p limit comment cs = (taken, [])) :
    (∀ t, spanFrom verbose p limit comment (cs ++ ')' :: t) = (taken, ')' :: t)) ∨
      ∀ t, '\n' ∉ t → spanFrom verbose p limit comment (cs ++ ')' :: t) = (taken, []) := by
  induction cs generalizing comment limit taken with
  | nil =>
    obtain ⟨rfl, -⟩ := Prod.mk.inj h
    cases comment with
    | false =>
      refine .inl fun t => ?_
      rw [List.nil_append, spanFrom_cons, passed_paren]
      cases limit <;> simp [hp]
    | true => exact .inr fun t ht => spanFrom_comment (not_mem_paren_cons ht)
  | cons d cs ih =>
    rw [spanFrom_cons] at h
    simp only [List.cons_append, spanFrom_cons]
    cases hd : passed verbose comment d with
    | some comment' =>
      simp only [hd] at h ⊢
      exact ih h
    | none =>
      simp only [hd] at h ⊢
      cases limit with
      | zero => simp at h
      | succ n =>
        cases hpd : p d with
        | false => simp [hpd] at h
        | true =>
          simp only [hpd, if_true, Prod.mk.injEq] at h ⊢
          obtain ⟨h₁, h₂⟩ := h
          refine (ih (Prod.ext rfl h₂)).imp (fun h t => ?_) fun h t ht => ?_
          · simp only [h t, h₁, and_self]
          · simp only [h t ht, h₁, and_self]

theorem span_append {verbose : Bool} {p : Char → Bool} {cs taken rest : List Char} {c : Char}
    (h : span verbose p cs = (taken, c :: rest)) (t : List Char) :
    span verbose p (cs ++ t) = (taken, c :: (rest ++ t)) :=
  spanFrom_append h (.inr ⟨Nat.le_refl _, by simp⟩) t

theorem dropWhile_append_of_cons {p : Char → Bool} {cs rest : List Char} {c : Char}
    (h : cs.dropWhile p = c :: rest) (t : List Char) :
    (cs ++ t).dropWhile p = c :: (rest ++ t) := by
  simp [List.dropWhile_append, h]

theorem takeWhile_append_of_cons {p : Char → Bool} {cs rest : List Char} {c : Char}
    (h : cs.dropWhile p = c :: rest) (t : List Char) :
    (cs ++ t).takeWhile p = cs.takeWhile p := by
  induction cs with
  | nil => simp at h
  | cons d cs ih =>
    cases hd : p d with
    | true => simp [hd, ih (by simpa [hd] using h)]
    | false => simp [hd]

/-! ### Numbers and counts -/

theorem decimal_append {verbose : Bool} {cs rest : List Char} {n : Nat} {c : Char}
    (h : decimal verbose cs = (some n, c :: rest)) (t : List Char) :
    decimal verbose (cs ++ t) = (some n, c :: (rest ++ t)) := by
  simp only [decimal, Prod.mk.injEq] at h ⊢
  obtain ⟨h₁, h₂⟩ := h
  cases hs : span verbose Char.isDigit (cs.dropWhile Unicode.isBlank) with
  | mk digits rest' =>
    cases rest' with
    | nil => simp [hs] at h₂
    | cons d rest' =>
      cases hcs : cs.dropWhile Unicode.isBlank with
      | nil => simp [hcs, span, spanFrom] at hs
      | cons b cs' =>
        rw [dropWhile_append_of_cons hcs t]
        rw [hcs] at hs
        have hs' := span_append hs t
        rw [List.cons_append] at hs'
        rw [hcs, hs] at h₁ h₂
        rw [hs']
        exact ⟨h₁, dropWhile_append_of_cons h₂ t⟩

/-- A number that is left something of is read in the same way if more follows, with the blanks before
it. -/
theorem decimal_skip_append {verbose : Bool} {cs rest : List Char} {n : Nat} {c : Char}
    (h : decimal verbose (skip verbose cs) = (some n, c :: rest)) (t : List Char) :
    decimal verbose (skip verbose (cs ++ t)) = (some n, c :: (rest ++ t)) := by
  cases hskip : skip verbose cs with
  | nil => simp [hskip, decimal, span, spanFrom] at h
  | cons d cs' =>
    have happ : skip verbose (cs ++ t) = d :: (cs' ++ t) := skipFrom_append hskip t
    rw [happ, ← List.cons_append, ← hskip]
    exact decimal_append h t

/-- **What a count between braces can be**: one number, a least one, or a least and a greatest one. -/
theorem count?_eq_some_iff {verbose : Bool} {cs rest : List Char} {k : Count} :
    count? verbose cs = some (k, rest) ↔ ∃ min,
      decimal verbose (skip verbose cs) = (some min, '\x7d' :: rest) ∧ k = ⟨min, some min⟩ ∨
        ∃ y, decimal verbose (skip verbose cs) = (some min, ',' :: y) ∧
          (skip verbose y = '\x7d' :: rest ∧ k = ⟨min, none⟩ ∨
            ∃ max, decimal verbose (skip verbose y) = (some max, '\x7d' :: rest) ∧ min ≤ max ∧
              k = ⟨min, some max⟩) := by
  rw [count?]
  constructor
  · intro h
    split at h
    · next min y hmin =>
      obtain ⟨rfl, rfl⟩ := Prod.mk.inj (Option.some.inj h)
      exact ⟨min, .inl ⟨hmin, rfl⟩⟩
    · next min y hmin =>
      refine ⟨min, .inr ⟨y, hmin, ?_⟩⟩
      split at h
      · next hy =>
        obtain ⟨rfl, rfl⟩ := Prod.mk.inj (Option.some.inj h)
        exact .inl ⟨hy, rfl⟩
      · split at h
        · next max z hmax =>
          split at h
          · next hle =>
            obtain ⟨rfl, rfl⟩ := Prod.mk.inj (Option.some.inj h)
            exact .inr ⟨max, hmax, hle, rfl⟩
          · cases h
        · cases h
    · cases h
  · rintro ⟨min, ⟨hmin, rfl⟩ | ⟨y, hmin, ⟨hy, rfl⟩ | ⟨max, hmax, hle, rfl⟩⟩⟩
    · simp only [hmin]
    · simp only [hmin, hy]
    · rw [hmin]
      simp only
      split
      · next z hz =>
        -- No number begins with a brace.
        have hnone : (decimal verbose ('\x7d' :: z)).1 = none := by cases verbose <;> rfl
        rw [hz] at hmax
        rw [hmax] at hnone
        cases hnone
      · simp only [hmax, if_pos hle]

theorem firm_count? (verbose : Bool) : Firm (count? verbose) := by
  intro cs k rest h t
  rw [count?_eq_some_iff] at h ⊢
  obtain ⟨min, ⟨hmin, rfl⟩ | ⟨y, hmin, hmax⟩⟩ := h
  · exact ⟨min, .inl ⟨decimal_skip_append hmin t, rfl⟩⟩
  · refine ⟨min, .inr ⟨y ++ t, decimal_skip_append hmin t, ?_⟩⟩
    rcases hmax with ⟨hy, rfl⟩ | ⟨max, hmax, hle, rfl⟩
    · exact .inl ⟨skipFrom_append hy t, rfl⟩
    · exact .inr ⟨max, decimal_skip_append hmax t, hle, rfl⟩

/-! ### Escapes -/

theorem firm_propertyEscape? (verbose : Bool) : Firm (propertyEscape? verbose) := by
  intro cs a rest h t
  rw [propertyEscape?] at h ⊢
  rcases skip_cases verbose cs with ⟨c, cs', hskip, happ⟩ | ⟨hskip, -⟩
  · rw [hskip] at h
    rw [happ]
    split at h
    · next cs₁ heq =>
      obtain ⟨rfl, rfl⟩ := List.cons.inj heq
      split at h
      · next query d rest' hspan =>
        obtain ⟨rfl, rfl⟩ : propertyQuery query = a ∧ rest' = rest := by simpa using h
        simp only [span_append hspan t]
      · cases h
    · cases h
    · next c' rest' hbrace hslash heq =>
      obtain ⟨rfl, rfl⟩ := List.cons.inj heq
      obtain ⟨rfl, rfl⟩ : PropertyQuery.named (String.singleton c) = a ∧ cs' = rest := by
        simpa using h
      split
      · next heq' => exact (hbrace (List.cons.inj heq').1).elim
      · next heq' => exact (hslash (List.cons.inj heq').1).elim
      · next heq' =>
        obtain ⟨rfl, rfl⟩ := List.cons.inj heq'
        rfl
      · next heq' => cases heq'
    · cases h
  · rw [hskip] at h
    cases h

theorem hexEscape?_of_spanFrom {verbose : Bool} {digits : Nat} {cs cs' code rest : List Char}
    {c : Char} (hskip : skip verbose cs = c :: cs') (hc : c ≠ '\x7b')
    (hspan : spanFrom verbose (fun c => (hexValue? c).isSome) digits false (c :: cs') =
      (code, rest)) :
    hexEscape? verbose digits cs =
      if code.length = digits then (hexChar? code).map fun ch => (⟨ch, digits == 2⟩, rest)
      else none := by
  rw [hexEscape?, hskip]
  split
  · next heq => exact absurd (List.cons.inj heq).1 hc
  · simp only [hspan, guard]
    by_cases hlen : code.length = digits
    · simp only [if_pos hlen]
      cases hexChar? code <;> rfl
    · simp only [if_neg hlen]
      rfl

theorem stable_hexEscape? (verbose : Bool) (digits : Nat) : Stable (hexEscape? verbose digits) := by
  intro cs a rest h
  rcases skip_cases verbose cs with ⟨c, cs', hskip, happ⟩ | ⟨hskip, -⟩
  · by_cases hc : c = '\x7b'
    · subst hc
      simp only [hexEscape?, hskip] at h
      split at h
      · next code d rest' hspan =>
        obtain ⟨ch, hch, he⟩ := Option.map_eq_some_iff.1 h
        obtain ⟨rfl, rfl⟩ := Prod.mk.inj he
        refine .inl fun t => ?_
        simp only [hexEscape?, happ, span_append hspan, hch, Option.map_some]
      · cases h
    · obtain ⟨⟨code, rest'⟩, hspan⟩ : ∃ r, spanFrom verbose (fun c => (hexValue? c).isSome) digits
        false (c :: cs') = r := ⟨_, rfl⟩
      rw [hexEscape?_of_spanFrom hskip hc hspan] at h
      split at h
      · next hlen =>
        obtain ⟨ch, hch, he⟩ := Option.map_eq_some_iff.1 h
        obtain ⟨rfl, rfl⟩ := Prod.mk.inj he
        have hread {t rest : List Char} (hspan : spanFrom verbose (fun c => (hexValue? c).isSome)
            digits false (c :: (cs' ++ t)) = (code, rest)) :
            hexEscape? verbose digits (cs ++ t) = some (⟨ch, digits == 2⟩, rest) := by
          rw [hexEscape?_of_spanFrom (happ t) hc hspan, if_pos hlen, hch, Option.map_some]
        -- All digits may have been read before the end, or at the end with a comment open.
        cases rest' with
        | nil =>
          rcases spanFrom_append_paren (by rfl) hspan with hparen | hparen
          · exact .inl fun t => hread (hparen t)
          · exact .inr ⟨rfl, fun t ht => hread (hparen t ht)⟩
        | cons d rest' => exact .inl fun t => hread (spanFrom_append hspan (.inl rfl) _)
      · cases h
  · have hnone : hexChar? [] = none := rfl
    by_cases hd : 0 = digits <;> simp [hexEscape?, hskip, spanFrom, guard, hd, hnone] at h

theorem stable_boundaryEscape? (verbose : Bool) : Stable (boundaryEscape? verbose) := by
  intro cs a rest h
  cases cs with
  | nil =>
    obtain ⟨rfl, rfl⟩ := Prod.mk.inj (Option.some.inj h)
    exact .inl fun t => rfl
  | cons c cs =>
    simp only [boundaryEscape?, List.cons_append] at h ⊢
    split at h
    · next inner heq =>
      obtain ⟨rfl, rfl⟩ := List.cons.inj heq
      refine .inl fun t => ?_
      simp only
      split at h
      · cases h
      · next rest' hne hspan =>
        obtain ⟨rfl, rfl⟩ := Prod.mk.inj (Option.some.inj h)
        obtain ⟨d, rest'', rfl⟩ := List.exists_cons_of_ne_nil hne
        simp only [span_append hspan, List.cons_append]
      · next name rest' hne hspan =>
        obtain ⟨b, hb, he⟩ := Option.map_eq_some_iff.1 h
        obtain ⟨rfl, rfl⟩ := Prod.mk.inj he
        simp only [span_append hspan, hb, Option.map_some]
      · cases h
    · next hbrace =>
      obtain ⟨rfl, rfl⟩ := Prod.mk.inj (Option.some.inj h)
      refine .inl fun t => ?_
      split
      · next heq => exact (hbrace _ (congrArg (· :: cs) (List.cons.inj heq).1)).elim
      · rfl

/-- What takes nothing more than one character leaves the parenthesis alone. -/
theorem paren_of_eq {a b : α} {cs rest : List Char} (h : some (a, cs) = some (b, rest)) :
    (∀ t, some (a, cs ++ ')' :: t) = some (b, rest ++ ')' :: t)) ∨
      rest = [] ∧ ∀ t, '\n' ∉ t → some (a, cs ++ ')' :: t) = some (b, []) := by
  obtain ⟨rfl, rfl⟩ := Prod.mk.inj (Option.some.inj h)
  exact .inl fun t => rfl

theorem stable_escape? (verbose : Bool) : Stable (escape? verbose) := by
  intro cs a rest h
  cases cs with
  | nil => cases h
  | cons c cs =>
    simp only [List.cons_append, escape?] at h ⊢
    split at h
    case h_1 | h_2 | h_3 => exact (stable_hexEscape? verbose _).map Escape.char h
    case h_4 | h_5 => exact (firm_propertyEscape? verbose).stable.map (Escape.property · _) h
    case h_20 => exact (stable_boundaryEscape? verbose).map Escape.assertion h
    case h_24 =>
      split at h
      · next hc =>
        simp only [hc, if_true]
        exact paren_of_eq h
      · cases h
    all_goals exact paren_of_eq h

/-! ### Groups -/

theorem flagChanges?_append {changes changes' : FlagChanges} {negated last : Bool}
    {cs rest : List Char} {c : Char}
    (h : flagChanges? changes negated last cs = some (changes', c, rest)) (t : List Char) :
    flagChanges? changes negated last (cs ++ t) = some (changes', c, rest ++ t) := by
  induction cs generalizing changes negated last with
  | nil => cases h
  | cons c cs ih =>
    rw [flagChanges?.eq_def] at h
    rw [List.cons_append, flagChanges?.eq_def]
    simp only at h ⊢
    split at h
    · next hend =>
      rw [if_pos hend]
      cases last with
      | true => cases h
      | false =>
        simp only [Bool.false_eq_true, if_false, Option.some.injEq, Prod.mk.injEq] at h ⊢
        exact ⟨h.1, h.2.1, congrArg (· ++ t) h.2.2⟩
    · next hend =>
      rw [if_neg hend]
      split at h
      · next hminus =>
        rw [if_pos hminus]
        cases negated with
        | true => cases h
        | false => exact ih h
      · next hminus =>
        rw [if_neg hminus]
        simp only [Option.bind_eq_bind, Option.bind_eq_some_iff] at h ⊢
        obtain ⟨flag, hflag, u, hguard, h⟩ := h
        exact ⟨flag, hflag, u, hguard, ih h⟩

theorem firm_groupName? : Firm groupName? := by
  intro cs a rest h t
  rw [groupName?] at h ⊢
  split at h
  · next c name d rest' htake hdrop =>
    rw [takeWhile_append_of_cons hdrop, dropWhile_append_of_cons hdrop, htake]
    simp only
    split at h
    · next hname =>
      obtain ⟨rfl, rfl⟩ := Prod.mk.inj (Option.some.inj h)
      rw [if_pos hname]
    · cases h
  · cases h

/-- What flags open, by the character that ends them. -/
def flagsOpening? (changes : FlagChanges) (ending : Char) : Option Opening :=
  if ending == ':' then some (.group (.plain changes))
  else if changes.isEmpty then none else some (.flags changes)

/-- **What an opening can be**: a name after a question mark, flags after one, or nothing of both. What
begins a name is no flag. -/
theorem opening?_eq_some_iff {verbose : Bool} {cs rest : List Char} {o : Opening} :
    opening? verbose cs = some (o, rest) ↔
      (∃ y name, (skip verbose cs = '?' :: 'P' :: '<' :: y ∨ skip verbose cs = '?' :: '<' :: y) ∧
          groupName? y = some (name, rest) ∧ o = .group (.capture (some name))) ∨
        (∃ y changes ending, skip verbose cs = '?' :: y ∧
          flagChanges? [] false false y = some (changes, ending, rest) ∧
          flagsOpening? changes ending = some o) ∨
        (∀ y, skip verbose cs ≠ '?' :: y) ∧ o = .group (.capture none) ∧ rest = skip verbose cs := by
  rw [opening?]
  constructor
  · intro h
    split at h
    · next y hskip =>
      obtain ⟨⟨name, rest'⟩, hname, heq⟩ := Option.map_eq_some_iff.1 h
      obtain ⟨rfl, rfl⟩ := Prod.mk.inj heq
      exact .inl ⟨y, name, .inl hskip, hname, rfl⟩
    · next y hskip =>
      obtain ⟨⟨name, rest'⟩, hname, heq⟩ := Option.map_eq_some_iff.1 h
      obtain ⟨rfl, rfl⟩ := Prod.mk.inj heq
      exact .inl ⟨y, name, .inr hskip, hname, rfl⟩
    · next y _ _ hskip =>
      simp only [Option.bind_eq_bind, Option.bind_eq_some_iff] at h
      obtain ⟨⟨changes, ending, rest'⟩, hchanges, h⟩ := h
      have hread : flagsOpening? changes ending = some o ∧ rest' = rest := by
        by_cases hend : ending = ':'
        · simpa [flagsOpening?, hend] using h
        · cases changes with
          | nil => simp [hend, guard] at h
          | cons change changes => simpa [flagsOpening?, hend, guard] using h
      obtain ⟨ho, rfl⟩ := hread
      exact .inr (.inl ⟨y, changes, ending, hskip, hchanges, ho⟩)
    · next hquestion =>
      obtain ⟨rfl, rfl⟩ := Prod.mk.inj (Option.some.inj h)
      exact .inr (.inr ⟨fun y hy => hquestion y hy, rfl, rfl⟩)
  · rintro (⟨y, name, hskip | hskip, hname, rfl⟩ | ⟨y, changes, ending, hskip, hchanges, ho⟩ |
      ⟨hquestion, rfl, rfl⟩)
    · simp only [hskip, hname, Option.map_some]
    · simp only [hskip, hname, Option.map_some]
    · rw [hskip]
      split
      · next heq =>
        rw [(List.cons.inj heq).2] at hchanges
        cases hchanges
      · next heq =>
        rw [(List.cons.inj heq).2] at hchanges
        cases hchanges
      · next heq =>
        obtain rfl := (List.cons.inj heq).2
        rw [hchanges]
        by_cases hend : ending = ':'
        · simpa [flagsOpening?, hend] using ho
        · cases changes with
          | nil => simp [flagsOpening?, hend] at ho
          | cons change changes => simpa [flagsOpening?, hend, guard] using ho
      · next hquestion => exact (hquestion _ rfl).elim
    · split
      · next heq => exact (hquestion _ heq).elim
      · next heq => exact (hquestion _ heq).elim
      · next heq => exact (hquestion _ heq).elim
      · rfl

theorem stable_opening? (verbose : Bool) : Stable (opening? verbose) := by
  intro cs o rest h
  rw [opening?_eq_some_iff] at h
  rcases skip_cases verbose cs with ⟨c, cs', hskip, happ⟩ | ⟨hskip, hparen⟩
  · refine .inl fun t => opening?_eq_some_iff.2 ?_
    rw [happ]
    rw [hskip] at h
    rcases h with ⟨y, name, hname, hread, rfl⟩ | ⟨y, changes, ending, heq, hchanges, ho⟩ |
      ⟨hquestion, rfl, rfl⟩
    · refine .inl ⟨y ++ ')' :: t, name, ?_, firm_groupName? hread _, rfl⟩
      rcases hname with heq | heq
      · obtain ⟨rfl, rfl⟩ := List.cons.inj heq
        exact .inl rfl
      · obtain ⟨rfl, rfl⟩ := List.cons.inj heq
        exact .inr rfl
    · obtain ⟨rfl, rfl⟩ := List.cons.inj heq
      exact .inr (.inl ⟨_, changes, ending, rfl, flagChanges?_append hchanges _, ho⟩)
    · refine .inr (.inr ⟨fun y hy => hquestion cs' ?_, rfl, rfl⟩)
      rw [(List.cons.inj hy).1]
  · rw [hskip] at h
    obtain ⟨rfl, rfl⟩ : o = .group (.capture none) ∧ rest = [] := by simpa using h
    rcases hparen with hparen | hopen
    · refine .inl fun t => opening?_eq_some_iff.2 (.inr (.inr ⟨?_, rfl, (hparen t).symm⟩))
      intro y hy
      cases (hparen t).symm.trans hy
    · refine .inr ⟨rfl, fun t ht => opening?_eq_some_iff.2 (.inr (.inr ⟨?_, rfl, (hopen t ht).symm⟩))⟩
      intro y hy
      cases (hopen t ht).symm.trans hy

/-! ### Repetitions -/

theorem lazyMark_append {cs : List Char} {c : Char} (t : List Char) :
    lazyMark (c :: (cs ++ t)) = ((lazyMark (c :: cs)).1, (lazyMark (c :: cs)).2 ++ t) := by
  by_cases hc : c = '?'
  · rw [hc]
    rfl
  · have hmark (cs : List Char) : lazyMark (c :: cs) = (false, c :: cs) := by
      rw [lazyMark]
      exact fun cs' heq => hc (List.cons.inj heq).1
    rw [hmark, hmark, List.cons_append]

theorem operator?_paren {verbose lazy : Bool} {cs rest : List Char} {count : Count}
    (h : operator? verbose cs = some (count, lazy, rest)) :
    (∀ t, operator? verbose (cs ++ ')' :: t) = some (count, lazy, rest ++ ')' :: t)) ∨
      rest = [] ∧ ∀ t, '\n' ∉ t → operator? verbose (cs ++ ')' :: t) = some (count, lazy, []) := by
  have hmark {k : Count} {cs : List Char} (h : some (k, lazyMark cs) = some (count, lazy, rest))
      (t : List Char) : some (k, lazyMark (cs ++ ')' :: t)) = some (count, lazy, rest ++ ')' :: t) := by
    simp only [Option.some.injEq, Prod.mk.injEq] at h ⊢
    refine ⟨h.1, ?_⟩
    cases cs with
    | nil =>
      obtain ⟨rfl, rfl⟩ := Prod.mk.inj h.2
      rfl
    | cons c cs =>
      rw [List.cons_append, lazyMark_append, h.2]
  rw [operator?.eq_def] at h
  simp only [operator?.eq_def]
  split at h
  · exact .inl (hmark h)
  · exact .inl (hmark h)
  · exact .inl (hmark h)
  · next cs' =>
    obtain ⟨⟨k, rest'⟩, hcount, he⟩ := Option.map_eq_some_iff.1 h
    simp only [List.cons_append, firm_count? verbose hcount, Option.map_some]
    rcases skip_cases verbose rest' with ⟨c, cs', hskip, happ⟩ | ⟨hskip, hparen | hopen⟩
    · simp only [happ, hskip] at he ⊢
      exact .inl (@hmark _ (c :: cs') (congrArg some he))
    · simp only [hparen, hskip] at he ⊢
      exact .inl (@hmark _ [] (congrArg some he))
    · rw [hskip] at he
      obtain ⟨-, he'⟩ := Prod.mk.inj he
      have hrest : rest = [] := (Prod.mk.inj he').2.symm
      exact .inr ⟨hrest, fun t ht => by rw [hopen t ht, he, hrest]⟩
  · cases h

end Regex

end RoutePatterns
