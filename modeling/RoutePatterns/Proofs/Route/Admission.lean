import RoutePatterns.Proofs.Pattern.Marks
import RoutePatterns.Proofs.Route.Printed

/-!
# Which patterns are admitted

A host and a path are compiled exactly if the placeholders that are written in them have names that are
allowed, in each of the two for itself (`Admissible`). Otherwise the error is the one of the first
placeholder with a refused name (`FirstRefusal`), where the whole host comes before the path
(`compileWith_outcome`).

The names are collected one after the other (`collectNames_append`), so a list of names is refused at the
first name that is refused after the ones before it (`collectNames_eq_error_iff`). The names of a text
and the places where they are written are in the same order, so this is carried over to the text.
-/

namespace RoutePatterns

/-! ### Names that are refused -/

/-- Why a name is refused in the text `pattern` where the names of the earlier placeholders are `Known`. Of
several reasons the first one counts. -/
inductive Refusal (pattern : String) (Known : String → Prop) (name : String) : PatternError → Prop
  | leadingDigit (hdigit : hasLeadingDigit name = true) :
    Refusal pattern Known name (.leadingDigit pattern name)
  | repeatedName (hdigit : hasLeadingDigit name = false) (hknown : Known name) :
    Refusal pattern Known name (.repeatedName pattern name)
  | longName (hdigit : hasLeadingDigit name = false) (hnew : ¬ Known name)
      (hlong : maxNameLength < name.length) :
    Refusal pattern Known name (.longName pattern name)

variable {pattern name : String} {Known Known' : String → Prop} {e : PatternError}
  {found names : List String}

namespace Refusal

theorem congr (h : Known name ↔ Known' name) :
    Refusal pattern Known name e ↔ Refusal pattern Known' name e := by
  constructor
  · rintro (hdigit | ⟨hdigit, hknown⟩ | ⟨hdigit, hnew, hlong⟩)
    · exact .leadingDigit hdigit
    · exact .repeatedName hdigit (h.1 hknown)
    · exact .longName hdigit (mt h.2 hnew) hlong
  · rintro (hdigit | ⟨hdigit, hknown⟩ | ⟨hdigit, hnew, hlong⟩)
    · exact .leadingDigit hdigit
    · exact .repeatedName hdigit (h.2 hknown)
    · exact .longName hdigit (mt h.1 hnew) hlong

end Refusal

theorem collectNames_of_refusal (h : Refusal pattern (· ∈ found) name e) (names : List String) :
    collectNames pattern found (name :: names) = .error e := by
  rw [collectNames]
  cases h with
  | leadingDigit hdigit => rw [if_pos hdigit]
  | repeatedName hdigit hknown => rw [if_neg (by simp [hdigit]), if_pos hknown]
  | longName hdigit hnew hlong => rw [if_neg (by simp [hdigit]), if_neg hnew, if_pos hlong]

theorem collectNames_of_forall_not (h : ∀ e, ¬ Refusal pattern (· ∈ found) name e) (names : List String) :
    collectNames pattern found (name :: names) = collectNames pattern (found ++ [name]) names := by
  have hdigit : ¬ hasLeadingDigit name = true := fun hdigit => h _ (.leadingDigit hdigit)
  have hdigit' : hasLeadingDigit name = false := by simpa using hdigit
  have hnew : ¬ name ∈ found := fun hknown => h _ (.repeatedName hdigit' hknown)
  have hshort : ¬ name.length > maxNameLength := fun hlong => h _ (.longName hdigit' hnew hlong)
  rw [collectNames, if_neg hdigit, if_neg hnew, if_neg hshort]

/-- Names are collected from one list after the other. -/
theorem collectNames_append (pattern : String) (found earlier names : List String) :
    collectNames pattern found (earlier ++ names) =
      (collectNames pattern found earlier).bind fun found => collectNames pattern found names := by
  induction earlier generalizing found with
  | nil => rfl
  | cons first earlier ih =>
    rw [List.cons_append, collectNames, collectNames]
    split_ifs
    · rfl
    · rfl
    · rfl
    · exact ih (found ++ [first])

theorem exists_refusal_of_collectNames (h : collectNames pattern found names = .error e) :
    ∃ earlier name later, names = earlier ++ name :: later ∧
      collectNames pattern found earlier = .ok (found ++ earlier) ∧
        Refusal pattern (· ∈ found ++ earlier) name e := by
  induction names generalizing found with
  | nil => cases h
  | cons first names ih =>
    by_cases hfirst : ∃ e, Refusal pattern (· ∈ found) first e
    · obtain ⟨e', hrefused⟩ := hfirst
      rw [collectNames_of_refusal hrefused] at h
      obtain rfl := Except.error.inj h
      exact ⟨[], first, names, rfl, by rw [List.append_nil, collectNames], by rwa [List.append_nil]⟩
    · rw [not_exists] at hfirst
      rw [collectNames_of_forall_not hfirst] at h
      obtain ⟨earlier, name, later, rfl, hok, hrefused⟩ := ih h
      rw [List.append_assoc, List.singleton_append] at hok hrefused
      refine ⟨first :: earlier, name, later, rfl, ?_, hrefused⟩
      rw [collectNames_of_forall_not hfirst, hok]

variable {earlier : List String}

theorem collectNames_append_of_refusal (hok : collectNames pattern [] earlier = .ok earlier)
    (hrefused : Refusal pattern (· ∈ earlier) name e) (later : List String) :
    collectNames pattern [] (earlier ++ name :: later) = .error e := by
  rw [collectNames_append, hok]
  exact collectNames_of_refusal hrefused later

/-- **Names are refused at the first name that is refused.** -/
theorem collectNames_eq_error_iff :
    collectNames pattern [] names = .error e ↔
      ∃ earlier name later, names = earlier ++ name :: later ∧
        collectNames pattern [] earlier = .ok earlier ∧ Refusal pattern (· ∈ earlier) name e := by
  constructor
  · exact exists_refusal_of_collectNames
  · rintro ⟨earlier, name, later, rfl, hok, hrefused⟩
    exact collectNames_append_of_refusal hok hrefused later

theorem collectNames_eq_ok_iff :
    collectNames pattern [] names = .ok names ↔
      ∀ earlier name later, names = earlier ++ name :: later →
        ∀ e, ¬ Refusal pattern (· ∈ earlier) name e := by
  constructor
  · rintro h earlier name later rfl e hrefused
    cases hearlier : collectNames pattern [] earlier with
    | error e' =>
      rw [collectNames_append, hearlier] at h
      cases h
    | ok collected =>
      obtain rfl : collected = earlier := eq_append_of_collectNames hearlier
      rw [collectNames_append_of_refusal hearlier hrefused later] at h
      cases h
  · intro h
    cases hcollect : collectNames pattern [] names with
    | ok collected => rw [eq_append_of_collectNames hcollect, List.nil_append]
    | error e =>
      obtain ⟨earlier, name, later, hnames, -, hrefused⟩ := collectNames_eq_error_iff.1 hcollect
      exact absurd hrefused (h earlier name later hnames e)

/-! ### Placeholders that are refused -/

/-- The placeholder that stands right after `before` in a host or path is refused. -/
def RefusedAt (part : Part) (text : String) (before : List Char) (name : String)
    (e : PatternError) : Prop :=
  OccursAt part text.toList before name ∧
    Refusal (part.unmarked text) (OccursBefore part text.toList before) name e

/-- The first placeholder of a host or path that is refused is refused with the error `e`. -/
def FirstRefusal (part : Part) (text : String) (e : PatternError) : Prop :=
  ∃ before name, RefusedAt part text before name e ∧
    ∀ earlier name' e', earlier.length < before.length → ¬ RefusedAt part text earlier name' e'

/-- The names of the placeholders that are written in a host or path are allowed. -/
structure Admissible (part : Part) (text : String) : Prop where
  /-- No name begins with a digit of ASCII. -/
  no_leadingDigit : ∀ before name, OccursAt part text.toList before name →
    hasLeadingDigit name = false
  /-- No name is written twice. -/
  no_repetition : ∀ before before' name, OccursAt part text.toList before name →
    OccursAt part text.toList before' name → before = before'
  /-- No name has too many characters. -/
  not_long : ∀ before name, OccursAt part text.toList before name → name.length ≤ maxNameLength

variable {part : Part} {cs before : List Char} {text : String}

theorem OccursAt.refusal_iff {other : String} (h : OccursAt part cs before other) :
    Refusal pattern (OccursBefore part cs before) name e ↔
      Refusal pattern (· ∈ part.names before) name e :=
  Refusal.congr h.occursBefore_iff

/-- The names of a text are allowed if no placeholder of the text is refused. -/
theorem collectNames_names_eq_ok_iff :
    collectNames pattern [] (part.names cs) = .ok (part.names cs) ↔
      ∀ before name, OccursAt part cs before name →
        ∀ e, ¬ Refusal pattern (OccursBefore part cs before) name e := by
  rw [collectNames_eq_ok_iff]
  constructor
  · intro h before name hoccurs e hrefused
    obtain ⟨later, hnames⟩ := hoccurs.names_eq
    exact h _ name later hnames e (hoccurs.refusal_iff.1 hrefused)
  · intro h earlier name later hnames e hrefused
    obtain ⟨before, hoccurs, rfl⟩ := exists_occursAt_of_names_eq hnames
    exact h before name hoccurs e (hoccurs.refusal_iff.2 hrefused)

theorem variableNames_unmarked (part : Part) (text : String) :
    variableNames (part.unmarked text) = collectNames (part.unmarked text) [] (part.names text.toList) := by
  rw [variableNames, part.slotNames_unmarked]

theorem exists_variableNames_eq_ok_iff :
    (∃ names, variableNames (part.unmarked text) = .ok names) ↔
      ∀ before name e, ¬ RefusedAt part text before name e := by
  have hnames : (∃ names, variableNames (part.unmarked text) = .ok names) ↔
      variableNames (part.unmarked text) = .ok (part.names text.toList) := by
    refine ⟨fun ⟨names, h⟩ => ?_, fun h => ⟨_, h⟩⟩
    rw [variableNames_unmarked] at h ⊢
    rw [h, eq_append_of_collectNames h, List.nil_append]
  rw [hnames, variableNames_unmarked, collectNames_names_eq_ok_iff]
  constructor
  · intro h before name e hrefused
    exact h before name hrefused.1 e hrefused.2
  · intro h before name hoccurs e hrefused
    exact h before name e ⟨hoccurs, hrefused⟩

/-- **The names of a text are refused at its first placeholder that is refused.** -/
theorem variableNames_eq_error_iff :
    variableNames (part.unmarked text) = .error e ↔ FirstRefusal part text e := by
  rw [variableNames_unmarked, collectNames_eq_error_iff]
  constructor
  · rintro ⟨earlier, name, later, hnames, hok, hrefused⟩
    obtain ⟨before, hoccurs, rfl⟩ := exists_occursAt_of_names_eq hnames
    refine ⟨before, name, ⟨hoccurs, hoccurs.refusal_iff.2 hrefused⟩, ?_⟩
    rintro first name' e' hlt ⟨hfirst, hrefused'⟩
    -- What is refused before the placeholder would be refused in the text before it.
    obtain ⟨rest, heq⟩ := hoccurs.exists_eq_append
    rw [heq] at hfirst
    have hbefore := hfirst.of_length_lt hlt
    rw [← heq] at hfirst
    refine collectNames_names_eq_ok_iff.1 hok first name' hbefore e' ?_
    exact hbefore.refusal_iff.2 (hfirst.refusal_iff.1 hrefused')
  · rintro ⟨before, name, ⟨hoccurs, hrefused⟩, hfirst⟩
    obtain ⟨later, hnames⟩ := hoccurs.names_eq
    refine ⟨_, name, later, hnames, ?_, hoccurs.refusal_iff.1 hrefused⟩
    rw [collectNames_names_eq_ok_iff]
    intro first name' hbefore e' hrefused'
    obtain ⟨rest, heq⟩ := hoccurs.exists_eq_append
    have hoccurs' := heq ▸ hbefore.mono ('\x7b' :: rest)
    exact hfirst first name' e' hbefore.length_lt
      ⟨hoccurs', hoccurs'.refusal_iff.2 (hbefore.refusal_iff.1 hrefused')⟩

/-- A text is admitted if no placeholder of it is refused. -/
theorem admissible_iff : Admissible part text ↔ ∀ before name e, ¬ RefusedAt part text before name e := by
  constructor
  · rintro h before name e ⟨hoccurs, hrefused⟩
    cases hrefused with
    | leadingDigit hdigit =>
      rw [h.no_leadingDigit before name hoccurs] at hdigit
      cases hdigit
    | repeatedName _ hknown =>
      obtain ⟨earlier, hearlier, hlt⟩ := hknown
      rw [h.no_repetition earlier before name hearlier hoccurs] at hlt
      exact Nat.lt_irrefl _ hlt
    | longName _ _ hlong => exact Nat.not_lt_of_le (h.not_long before name hoccurs) hlong
  · intro h
    have hdigit : ∀ before name, OccursAt part text.toList before name →
        hasLeadingDigit name = false := by
      intro before name hoccurs
      by_contra hdigit
      exact h before name _ ⟨hoccurs, .leadingDigit (by simpa using hdigit)⟩
    have hnew : ∀ before name, OccursAt part text.toList before name →
        ¬ OccursBefore part text.toList before name := by
      intro before name hoccurs hknown
      exact h before name _ ⟨hoccurs, .repeatedName (hdigit before name hoccurs) hknown⟩
    refine ⟨hdigit, ?_, ?_⟩
    · intro before before' name hoccurs hoccurs'
      rcases Nat.lt_trichotomy before.length before'.length with hlt | heq | hlt
      · exact absurd ⟨before, hoccurs, hlt⟩ (hnew before' name hoccurs')
      · obtain ⟨rest, hrest⟩ := hoccurs.exists_eq_append
        obtain ⟨rest', hrest'⟩ := hoccurs'.exists_eq_append
        exact List.append_inj_left (hrest.symm.trans hrest') heq
      · exact absurd ⟨before', hoccurs', hlt⟩ (hnew before name hoccurs)
    · intro before name hoccurs
      by_contra hlong
      exact h before name _ ⟨hoccurs, .longName (hdigit before name hoccurs) (hnew before name hoccurs)
        (Nat.lt_of_not_le hlong)⟩

/-! ### Marks in a host -/

variable {overrides : Lookup} {word front : List Char} {pieces : List Piece} {host path : String}

theorem text_mem_textToken {reversed : List Char} (hne : reversed ≠ []) :
    .text (String.ofList reversed.reverse) ∈ textToken reversed := by
  obtain ⟨c, cs, rfl⟩ := List.exists_cons_of_ne_nil hne
  exact List.mem_singleton_self _

/-- A word that does not end in a separator is not taken from by the placeholder after it. -/
theorem exists_remainingText_eq (hne : word ≠ []) (hlast : ∀ c ∈ word.getLast?, isSeparator c = false)
    (after front : List Char) :
    ∃ after', remainingText (after ++ (word.reverse ++ front)) = after' ++ (word.reverse ++ front) := by
  cases after with
  | nil =>
    obtain ⟨c, cs, hcs⟩ := List.exists_cons_of_ne_nil (List.reverse_ne_nil_iff.2 hne)
    have hc : isSeparator c = false := hlast c (by rw [← List.head?_reverse, hcs]; rfl)
    exact ⟨[], by simp [hcs, remainingText, takenSeparator, hc]⟩
  | cons c after =>
    cases hc : isSeparator c with
    | true => exact ⟨after, by simp [remainingText, takenSeparator, hc]⟩
    | false => exact ⟨c :: after, by simp [remainingText, takenSeparator, hc]⟩

/-- A word of characters that does not end in a separator is a part of one text. -/
theorem exists_text_tokensAfter (hne : word ≠ [])
    (hlast : ∀ c ∈ word.getLast?, isSeparator c = false) (after : List Char) (pieces : List Piece) :
    ∃ content, .text content ∈ tokensAfter part overrides (after ++ (word.reverse ++ front)) pieces ∧
      word <:+: content.toList := by
  have htext (after : List Char) : .text (String.ofList (after ++ (word.reverse ++ front)).reverse) ∈
      textToken (after ++ (word.reverse ++ front)) ∧
        word <:+: (String.ofList (after ++ (word.reverse ++ front)).reverse).toList := by
    refine ⟨text_mem_textToken (by simp [hne]), front.reverse, after.reverse, ?_⟩
    simp
  induction pieces generalizing after with
  | nil => exact ⟨_, htext after⟩
  | cons piece pieces ih =>
    cases piece with
    | char c => exact ih (c :: after)
    | slot name =>
      obtain ⟨after', hremaining⟩ := exists_remainingText_eq hne hlast after front
      obtain ⟨hmem, hinfix⟩ := htext after'
      rw [tokensAfter, hremaining]
      exact ⟨_, List.mem_append_left _ hmem, hinfix⟩

theorem exists_text_tokensAfter_append (hne : word ≠ [])
    (hlast : ∀ c ∈ word.getLast?, isSeparator c = false) (reversed : List Char)
    (pieces pieces' : List Piece) :
    ∃ content, .text content ∈
        tokensAfter part overrides reversed (pieces ++ (word.map Piece.char ++ pieces')) ∧
      word <:+: content.toList := by
  induction pieces generalizing reversed with
  | nil =>
    rw [List.nil_append, tokensAfter_map_char]
    exact exists_text_tokensAfter hne hlast [] pieces'
  | cons piece pieces ih =>
    cases piece with
    | char c => exact ih (c :: reversed)
    | slot name =>
      obtain ⟨content, hmem, hinfix⟩ := ih []
      exact ⟨content, List.mem_append_right _ (List.mem_cons_of_mem _ hmem), hinfix⟩

/-- **In a host, a placeholder with a mark is literal text.** -/
theorem exists_text_of_marked {after : List Char} (overrides : Lookup) (hname : IsSlotName name)
    (h : host.toList = before ++ '\x7b' :: (name.toList ++ (SlotEnd.optional.chars ++ after))) :
    ∃ content, .text content ∈ tokens .host overrides host ∧
      '\x7b' :: (name.toList ++ SlotEnd.optional.chars) <:+: content.toList := by
  rw [tokens, scan, h, scanAfter_append_brace, scanAfter_of_ending_ne hname (by decide)]
  refine exists_text_tokensAfter_append (List.cons_ne_nil _ _) ?_ [] _ _
  intro c hc
  have hbrace : c = '\x7d' := by
    simpa [SlotEnd.chars, List.getLast?_cons, List.getLast?_append, eq_comm] using hc
  rw [hbrace]
  rfl

/-! ### Routes -/

/-- A route is compiled unless a name is refused. -/
theorem exists_compileWith_eq (host path : String) (overrides : Lookup) :
    ∃ r, compileWith host path overrides =
      (variableNames (Part.host.unmarked host)).bind fun _ =>
        (variableNames (Part.path.unmarked path)).map fun _ => r := by
  have hpart (part : Part) (optional : List String) (pattern : String) :
      ∃ p, compilePart part overrides optional pattern = (variableNames pattern).map fun _ => p := by
    cases hnames : variableNames pattern with
    | error e => exact ⟨{}, by rw [compilePart, hnames]; rfl⟩
    | ok names => exact ⟨_, compilePart_of_variableNames hnames⟩
  have hhost : ∃ p, compileHost overrides host = (variableNames host).map fun _ => p := by
    rw [compileHost]
    split
    · next hempty =>
      obtain rfl : host = "" := by simpa using hempty
      exact ⟨_, rfl⟩
    · exact hpart .host [] host
  obtain ⟨p, hp⟩ := hhost
  obtain ⟨p', hp'⟩ := hpart .path (optionalNames path) (withoutMarks path)
  refine ⟨Route.ofParts p p', ?_⟩
  rw [compileWith, hp, compilePath, hp', Part.unmarked, Part.unmarked]
  cases variableNames host with
  | error e => rfl
  | ok names => cases variableNames (withoutMarks path) <;> rfl

/-- **A route is compiled if its host and its path are admissible, each for itself, and otherwise the
error is the one of the first placeholder that is refused**, in the host or else in the path, where the text
that it carries is the path without its marks. In a host, a placeholder with a mark is no placeholder. -/
theorem compileWith_outcome (host path : String) (overrides : Lookup) :
    ((∃ r, compileWith host path overrides = .ok r) ↔
        Admissible .host host ∧ Admissible .path path) ∧
      (∀ e, compileWith host path overrides = .error e ↔
        FirstRefusal .host host e ∨ Admissible .host host ∧ FirstRefusal .path path e) ∧
      Part.host.unmarked host = host ∧ IsUnmarked path (Part.path.unmarked path) ∧
      ∀ r, compileWith host path overrides = .ok r → ∀ before name after, IsSlotName name →
        host.toList = before ++ '\x7b' :: (name.toList ++ (SlotEnd.optional.chars ++ after)) →
        ∃ content, .text content ∈ r.hostTokens ∧
          '\x7b' :: (name.toList ++ SlotEnd.optional.chars) <:+: content.toList := by
  simp only [← variableNames_eq_error_iff, admissible_iff, ← exists_variableNames_eq_ok_iff]
  obtain ⟨r, hr⟩ := exists_compileWith_eq host path overrides
  refine ⟨?_, fun e => ?_, rfl, isUnmarked_withoutMarks path, ?_⟩
  · rw [hr]
    cases variableNames (Part.host.unmarked host) <;> cases variableNames (Part.path.unmarked path) <;>
      simp [Except.bind, Except.map]
  · rw [hr]
    cases variableNames (Part.host.unmarked host) <;> cases variableNames (Part.path.unmarked path) <;>
      simp [Except.bind, Except.map]
  · intro r hcompile before name after hname hmarked
    obtain ⟨p, p', hhost, -, rfl⟩ := compileWith_eq_ok hcompile
    obtain ⟨content, hmem, hinfix⟩ := exists_text_of_marked overrides hname hmarked
    rw [← tokens_of_compileHost hhost] at hmem
    exact ⟨content, hmem, hinfix⟩

theorem compileWith_outcome_docs :
    FirstRefusal .path "/{lang}/{rev?}/{rev}" (.repeatedName "/{lang}/{rev}/{rev}" "rev") ∧
      IsUnmarked "/{lang}/{rev?}/{rev}" "/{lang}/{rev}/{rev}" ∧
      ∃ r content, compileWith "{lang}.{rev?}.org" "/{lang}/{rev?}" (fun _ => none) = .ok r ∧
        .text content ∈ r.hostTokens ∧ "{rev?}".toList <:+: content.toList := by
  obtain ⟨hok, -, -, -, hliteral⟩ :=
    compileWith_outcome "{lang}.{rev?}.org" "/{lang}/{rev?}" (fun _ => none)
  obtain ⟨-, herror, -, hunmarked, -⟩ :=
    compileWith_outcome "{lang}.{rev?}.org" "/{lang}/{rev?}/{rev}" (fun _ => none)
  obtain ⟨r, hr⟩ : ∃ r, compileWith "{lang}.{rev?}.org" "/{lang}/{rev?}" (fun _ => none) = .ok r :=
    ⟨_, rfl⟩
  have hhost : Admissible .host "{lang}.{rev?}.org" := (hok.1 ⟨r, hr⟩).1
  refine ⟨?_, hunmarked, ?_⟩
  · rcases (herror _).1 rfl with ⟨before, name, hrefused, -⟩ | ⟨-, hpath⟩
    · exact absurd hrefused (admissible_iff.1 hhost before name _)
    · exact hpath
  · obtain ⟨content, hmem, hinfix⟩ :=
      hliteral r hr "{lang}.".toList "rev" ".org".toList (by decide) (by decide)
    exact ⟨r, content, hr, hmem, hinfix⟩

end RoutePatterns
