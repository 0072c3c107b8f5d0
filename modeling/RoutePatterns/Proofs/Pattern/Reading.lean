import RoutePatterns.Proofs.Pattern.Nesting
import RoutePatterns.Proofs.Regex.Group
import RoutePatterns.Regex.Basic

/-!
# Reading the fragments of tokens

Every fragment of a token is read as the same parts wherever it stands: a quoted text as its characters
(`Reader.leads_quote`), a variable as its separator and a named group that holds what its constraint is
read as by itself (`Reader.leads_fragment`). This asks of the constraint that it can be read alone and in
a group, of the name that it is a name of groups, and of both that no name comes twice.
-/

namespace RoutePatterns

namespace Regex

/-- A character that stands for itself. -/
def literal (c : Char) : Syntax := .char ⟨c, false⟩

/-- A text that can be the name of a group. -/
def IsGroupName (name : String) : Prop := groupName? (name.toList ++ ['>']) = some (name, [])

instance (name : String) : Decidable (IsGroupName name) := by
  unfold IsGroupName
  infer_instance

theorem lexeme?_quoteChar (c : Char) (t : List Char) :
    lexeme? false (quoteChar c ++ t) = some (.part (literal c), t) := by
  rw [quoteChar]
  cases hmeta : isMetacharacter c with
  | true =>
    rw [isMetacharacter, List.contains_iff_mem] at hmeta
    simp only [metacharacters, List.mem_cons, List.not_mem_nil, or_false] at hmeta
    rcases hmeta with rfl | rfl | rfl | rfl | rfl | rfl | rfl | rfl | rfl | rfl | rfl | rfl | rfl |
      rfl | rfl | rfl | rfl | rfl <;> rfl
  | false =>
    simp only [Bool.false_eq_true, if_false, List.cons_append, List.nil_append, lexeme?]
    split
    case h_9 =>
      rw [if_neg]
      · rfl
      · intro hop
        simp only [Bool.or_eq_true, beq_iff_eq] at hop
        rcases hop with ((rfl | rfl) | rfl) | rfl <;> cases hmeta
    all_goals cases hmeta

namespace Reader

/-- A reader outside of classes, where blanks stand for themselves. -/
structure Literal (r : Reader) : Prop where
  inClass : r.inClass = none
  verbose : r.verbose = false

/-- The reader after parts and names of groups. -/
def after (r : Reader) (es : List Syntax) (names : List String) : Reader :=
  { r with items := es.reverse ++ r.items, names := names ++ r.names }

variable {r : Reader}

theorem Literal.after (hr : r.Literal) (es : List Syntax) (names : List String) :
    (r.after es names).Literal := ⟨hr.inClass, hr.verbose⟩

@[simp] theorem after_nil (r : Reader) : r.after [] [] = r := rfl

@[simp] theorem after_after (es es' : List Syntax) (names names' : List String) :
    (r.after es names).after es' names' = r.after (es ++ es') (names' ++ names) := by
  simp [Reader.after]

theorem leads_lexeme {l : Lexeme} {r' : Reader} {c : Char} {cs t : List Char} (hr : r.Literal)
    (hl : lexeme? false (c :: cs) = some (l, t)) (htake : r.take l = some r')
    (hlen : t.length ≤ cs.length) : Leads r (c :: cs) r' t := by
  refine .step hr.verbose ?_ hlen
  rw [step, hr.inClass]
  simp only
  rw [outside_eq, hr.verbose, hl, Option.bind_some, htake, Option.map_some]

theorem leads_quoteChar (hr : r.Literal) (c : Char) (t : List Char) :
    Leads r (quoteChar c ++ t) (r.after [literal c] []) t := by
  obtain ⟨d, cs, hcs⟩ : ∃ d cs, quoteChar c = d :: cs := by
    rw [quoteChar]
    cases isMetacharacter c
    · exact ⟨c, [], rfl⟩
    · exact ⟨'\\', [c], rfl⟩
  have hl := lexeme?_quoteChar c t
  rw [hcs, List.cons_append] at hl ⊢
  exact leads_lexeme hr hl rfl (by simp)

/-- **A quoted text is read as its characters.** -/
theorem leads_quote (hr : r.Literal) (s t : List Char) :
    Leads r (s.flatMap quoteChar ++ t) (r.after (s.map literal) []) t := by
  induction s generalizing r with
  | nil => exact .refl r t
  | cons c s ih =>
    rw [List.flatMap_cons, List.append_assoc]
    have h := ih (hr.after [literal c] [])
    rw [after_after] at h
    exact (leads_quoteChar hr c _).trans h

/-- The beginning of a named group. -/
theorem leads_nameOpening {name : String} (hr : r.Literal) (hname : IsGroupName name)
    (hnew : name ∉ r.names) (t : List Char) :
    Leads r ('(' :: ('?' :: '<' :: (name.toList ++ '>' :: t)))
      { r with
        frames := ⟨.capture (some name), r.branches, r.items, r.verbose⟩ :: r.frames, branches := []
        items := [], names := name :: r.names } t := by
  have hopening : lexeme? false ('(' :: ('?' :: '<' :: (name.toList ++ '>' :: t))) =
      some (.enter (.group (.capture (some name))), t) := by
    have hfirm := firm_groupName? hname t
    rw [List.append_assoc, List.cons_append, List.nil_append] at hfirm
    change ((groupName? (name.toList ++ '>' :: t)).map
      fun r => (Opening.group (.capture (some r.1)), r.2)).map (fun o => (Lexeme.enter o.1, o.2)) = _
    rw [hfirm, Option.map_some, Option.map_some]
  refine leads_lexeme hr hopening ?_ ?_
  · rw [take, openGroup_eq_some_iff]
    refine ⟨fun n hn => ?_, rfl⟩
    obtain rfl := Option.some.inj hn
    exact hnew
  · simp
    omega

/-- A named group is read as the group of what its constraint is read as alone. -/
theorem leads_namedGroup {e : Syntax} {constraint name : String} (hr : r.Literal)
    (hname : IsGroupName name) (hread : run {} constraint.toList = some e)
    (hgroup : Groupable constraint.toList) (hnodup : (name :: e.groupNames).Nodup)
    (hnew : ∀ n ∈ name :: e.groupNames, n ∉ r.names) :
    ∃ names, (∀ n ∈ names, n ∈ name :: e.groupNames) ∧ ∀ t,
      Leads r ((namedGroup constraint name).toList ++ t)
        (r.after [.group (.capture (some name)) e] names) t := by
  obtain ⟨frames, branches, items, verbose, known, inClass⟩ := r
  obtain rfl : inClass = none := hr.inClass
  obtain rfl : verbose = false := hr.verbose
  -- Inside of the group its own name is known as well.
  have hknown : ∀ n ∈ e.groupNames, n ∉ name :: known := by
    intro n hn hmem
    rcases List.mem_cons.1 hmem with rfl | hmem
    · exact (List.nodup_cons.1 hnodup).1 hn
    · exact hnew n (List.mem_cons_of_mem _ hn) hmem
  obtain ⟨names, hnames, hleads⟩ := leads_group hread hgroup hknown
    ⟨.capture (some name), branches, items, false⟩ frames
  refine ⟨names ++ [name], fun n hn => ?_, fun t => ?_⟩
  · rcases List.mem_append.1 hn with hn | hn
    · exact List.mem_cons_of_mem _ (hnames n hn)
    · exact List.mem_singleton.1 hn ▸ List.mem_cons_self
  · have htext : (namedGroup constraint name).toList ++ t =
        '(' :: ('?' :: '<' :: (name.toList ++ '>' :: (constraint.toList ++ ')' :: t))) := by
      simp [namedGroup]
    have hopen := leads_nameOpening hr hname (hnew name List.mem_cons_self)
      (constraint.toList ++ ')' :: t)
    rw [htext]
    refine hopen.trans ?_
    simpa [Reader.after] using hleads t

end Reader

end Regex

open Regex

/-! ### Tokens -/

namespace Token

/-- The names of the groups in the fragment of a token: its own, and those in its constraint. -/
def groupNames : Token → List String
  | text _ => []
  | var _ constraint name => name :: ((exprOfText? constraint).map Expr.groupNames).getD []

/-- The fragment of a token can be read: the constraint is an expression, by itself and in a group, and
the name can be the name of a group. -/
def Readable : Token → Prop
  | text _ => True
  | var _ constraint name =>
    IsGroupName name ∧ (exprOfText? constraint).isSome ∧
      (exprOfText? ("(?:" ++ constraint ++ ")")).isSome

instance : (token : Token) → Decidable token.Readable
  | text _ => inferInstanceAs (Decidable True)
  | var _ constraint name => inferInstanceAs (Decidable (IsGroupName name ∧
      (exprOfText? constraint).isSome ∧ (exprOfText? ("(?:" ++ constraint ++ ")")).isSome))

/-- What the fragment of a token is read as. -/
def parts : Token → List Syntax
  | text content => content.toList.map literal
  | var separator constraint name =>
    separator.toList.map literal ++
      [.group (.capture (some name)) ((Syntax.read? constraint).getD .empty)]

end Token

/-- What an optional run is read as: at most one part. -/
def nestedParts : List Token → List Syntax
  | [] => []
  | token :: tokens =>
    [.repetition 0 (some 1) false
      (.group (.plain []) (Syntax.ofItems (token.parts ++ nestedParts tokens)))]

/-- The names in the expression of a constraint are the names of the groups in it. -/
theorem exists_read?_of_exprOfText? {constraint : String} (h : (exprOfText? constraint).isSome) :
    ∃ e, Syntax.read? constraint = some e ∧
      e.groupNames = ((exprOfText? constraint).map Expr.groupNames).getD [] := by
  obtain ⟨x, hx⟩ := Option.isSome_iff_exists.1 h
  obtain ⟨e, he, hresolve⟩ := Option.bind_eq_some_iff.1 hx
  obtain ⟨⟨x', f⟩, hwith, rfl⟩ := Option.map_eq_some_iff.1 hresolve
  refine ⟨e, he, ?_⟩
  rw [hx, Option.map_some, Option.getD_some, Syntax.groupNames_of_resolveWith? hwith]

theorem groupable_of_exprOfText? {constraint : String}
    (h : (exprOfText? ("(?:" ++ constraint ++ ")")).isSome) : Reader.Groupable constraint.toList := by
  obtain ⟨e, he, -⟩ := exists_read?_of_exprOfText? h
  rw [Syntax.read?, String.toList_append, String.toList_append] at he
  exact Option.isSome_iff_exists.2 ⟨e, he⟩

namespace Regex.Reader

variable {r : Reader}

/-- **The fragment of a token is read as its parts, wherever it stands.** -/
theorem leads_fragment {token : Token} (hr : r.Literal) (htoken : token.Readable)
    (hnodup : token.groupNames.Nodup) (hnew : ∀ n ∈ token.groupNames, n ∉ r.names) :
    ∃ names, (∀ n ∈ names, n ∈ token.groupNames) ∧ ∀ t,
      Leads r (token.fragment.toList ++ t) (r.after token.parts names) t := by
  cases token with
  | text content =>
    refine ⟨[], fun n hn => hn, fun t => ?_⟩
    rw [Token.fragment, toList_quote]
    exact leads_quote hr content.toList t
  | var separator constraint name =>
    obtain ⟨hname, hconstraint, hgroup⟩ := htoken
    obtain ⟨e, he, hnames⟩ := exists_read?_of_exprOfText? hconstraint
    rw [Token.groupNames, ← hnames] at hnodup hnew ⊢
    obtain ⟨names, hsub, hleads⟩ := leads_namedGroup (hr.after (separator.toList.map literal) [])
      hname he (groupable_of_exprOfText? hgroup) hnodup hnew
    refine ⟨names, hsub, fun t => ?_⟩
    have hseparator := leads_quote hr separator.toList ((namedGroup constraint name).toList ++ t)
    rw [Token.fragment, String.toList_append, toList_quote, String.toList_ofList, List.append_assoc,
      Token.parts, he, Option.getD_some]
    have h := hseparator.trans (hleads t)
    rwa [after_after, List.append_nil] at h

theorem leads_fragments {tokens : List Token} (hr : r.Literal)
    (htokens : ∀ token ∈ tokens, token.Readable)
    (hnodup : (tokens.flatMap Token.groupNames).Nodup)
    (hnew : ∀ n ∈ tokens.flatMap Token.groupNames, n ∉ r.names) :
    ∃ names, (∀ n ∈ names, n ∈ tokens.flatMap Token.groupNames) ∧ ∀ t,
      Leads r ((String.join (tokens.map Token.fragment)).toList ++ t)
        (r.after (tokens.flatMap Token.parts) names) t := by
  induction tokens generalizing r with
  | nil => exact ⟨[], fun n hn => hn, fun t => by simpa using Leads.refl r t⟩
  | cons token tokens ih =>
    rw [List.flatMap_cons] at hnodup hnew
    obtain ⟨hnodup₁, hnodup₂, hdisjoint⟩ := List.nodup_append.1 hnodup
    obtain ⟨names₁, hsub₁, hleads₁⟩ := leads_fragment hr (htokens token List.mem_cons_self) hnodup₁
      fun n hn => hnew n (List.mem_append_left _ hn)
    obtain ⟨names₂, hsub₂, hleads₂⟩ := ih (hr.after token.parts names₁)
      (fun t ht => htokens t (List.mem_cons_of_mem _ ht)) hnodup₂ fun n hn hmem => by
        rcases List.mem_append.1 hmem with hmem | hmem
        · exact hdisjoint n (hsub₁ n hmem) n hn rfl
        · exact hnew n (List.mem_append_right _ hn) hmem
    refine ⟨names₂ ++ names₁, fun n hn => ?_, fun t => ?_⟩
    · rw [List.flatMap_cons, List.mem_append]
      exact (List.mem_append.1 hn).symm.imp (hsub₁ n) (hsub₂ n)
    · rw [List.map_cons, String.join_cons, String.toList_append, List.append_assoc]
      have h := (hleads₁ _).trans (hleads₂ t)
      rwa [after_after] at h

/-! ### The optional run -/

theorem leads_optional {e : Syntax} {items : List Syntax} {c : Char} {t : List Char}
    (hr : r.Literal) (hitems : r.items = e :: items) (he : e.isRepeatable = true) (hc : c ≠ '?') :
    Leads r ('?' :: c :: t) { r with items := .repetition 0 (some 1) false e :: items } (c :: t) := by
  have hmark : lazyMark (c :: t) = (false, c :: t) := by
    rw [lazyMark]
    exact fun cs heq => hc (List.cons.inj heq).1
  have hl : lexeme? false ('?' :: c :: t) = some (.repeated ⟨0, some 1⟩ false, c :: t) := by
    change some (Lexeme.repeated ⟨0, some 1⟩ (lazyMark (c :: t)).1, (lazyMark (c :: t)).2) = _
    rw [hmark]
  refine leads_lexeme hr hl ?_ (Nat.le_refl _)
  rw [take, repeatLast, hitems]
  simp only [he, if_true]

/-- The reader at the beginning of a group without a name. -/
def inPlainGroup (r : Reader) : Reader :=
  { r with frames := ⟨.plain [], r.branches, r.items, false⟩ :: r.frames, branches := [], items := [] }

theorem Literal.inPlainGroup (hr : r.Literal) : r.inPlainGroup.Literal := ⟨hr.inClass, hr.verbose⟩

/-- A group without a name, which may be missing. -/
theorem leads_optionalGroup {es : List Syntax} {names : List String} {cs t : List Char} {c : Char}
    (hr : r.Literal) (hc : c ≠ '?')
    (hinner : Leads r.inPlainGroup (cs ++ [')', '?'] ++ c :: t) (r.inPlainGroup.after es names)
      ([')', '?'] ++ c :: t)) :
    Leads r (['(', '?', ':'] ++ (cs ++ [')', '?'] ++ c :: t))
      (r.after [.repetition 0 (some 1) false (.group (.plain []) (Syntax.ofItems es))] names)
      (c :: t) := by
  obtain ⟨frames, branches, items, verbose, known, inClass⟩ := r
  obtain rfl : inClass = none := hr.inClass
  obtain rfl : verbose = false := hr.verbose
  have hopen := Leads.step hr.verbose (step_plainGroup _ hr.inClass hr.verbose
    (cs ++ [')', '?'] ++ c :: t)) (by simp; omega)
  have hclose : lexeme? false (')' :: '?' :: c :: t) = some (.close, '?' :: c :: t) := rfl
  refine (hopen.trans hinner).trans
    ((leads_lexeme ⟨rfl, rfl⟩ hclose rfl (Nat.le_refl _)).trans ?_)
  have h := leads_optional (r := ⟨frames, branches, .group (.plain []) (Syntax.ofItems es) :: items,
    false, names ++ known, none⟩) ⟨rfl, rfl⟩ rfl rfl hc (t := t)
  simpa [Reader.after, Reader.inPlainGroup, body, Syntax.ofBranches] using h

/-- **An optional run is read as groups inside of groups.** -/
theorem leads_nested {tokens : List Token} (hr : r.Literal)
    (htokens : ∀ token ∈ tokens, token.Readable)
    (hnodup : (tokens.flatMap Token.groupNames).Nodup)
    (hnew : ∀ n ∈ tokens.flatMap Token.groupNames, n ∉ r.names) :
    ∃ names, (∀ n ∈ names, n ∈ tokens.flatMap Token.groupNames) ∧ ∀ c t, c ≠ '?' →
      Leads r ((nested tokens).toList ++ c :: t) (r.after (nestedParts tokens) names) (c :: t) := by
  induction tokens generalizing r with
  | nil => exact ⟨[], fun n hn => hn, fun c t _ => .refl r _⟩
  | cons token tokens ih =>
    rw [List.flatMap_cons] at hnodup hnew
    obtain ⟨hnodup₁, hnodup₂, hdisjoint⟩ := List.nodup_append.1 hnodup
    obtain ⟨names₁, hsub₁, hleads₁⟩ := leads_fragment hr.inPlainGroup
      (htokens token List.mem_cons_self) hnodup₁ fun n hn => hnew n (List.mem_append_left _ hn)
    -- The rest of the run is nested in the same group, after the token.
    obtain ⟨names₂, hsub₂, hleads₂⟩ := ih (hr.inPlainGroup.after token.parts names₁)
      (fun t ht => htokens t (List.mem_cons_of_mem _ ht)) hnodup₂ fun n hn hmem => by
        rcases List.mem_append.1 hmem with hmem | hmem
        · exact hdisjoint n (hsub₁ n hmem) n hn rfl
        · exact hnew n (List.mem_append_right _ hn) hmem
    refine ⟨names₂ ++ names₁, fun n hn => ?_, fun c t hc => ?_⟩
    · rw [List.flatMap_cons, List.mem_append]
      exact (List.mem_append.1 hn).symm.imp (hsub₁ n) (hsub₂ n)
    · have hinner := (hleads₁ _).trans (hleads₂ ')' ('?' :: c :: t) (by decide))
      rw [after_after, ← List.append_assoc] at hinner
      have h := @leads_optionalGroup r _ _ (token.fragment.toList ++ (nested tokens).toList) t c hr hc
        (by simpa using hinner)
      simpa [nested, nestedParts] using h

/-! ### Whole expressions -/

/-- Parts between the start and the end of the text. -/
def anchoredParts (es : List Syntax) : Syntax :=
  Syntax.ofItems (.assertion .lineStart :: es ++ [.assertion .lineEnd])

theorem read?_of_leads {cs : List Char} {es : List Syntax} {names : List String}
    (h : Leads (after {} [.assertion .lineStart] []) (cs ++ ['$'])
      (after (after {} [.assertion .lineStart] []) es names) ['$']) :
    Syntax.read? ("^" ++ String.ofList cs ++ "$") = some (anchoredParts es) := by
  have hstart : Leads {} ('^' :: (cs ++ ['$'])) (after {} [.assertion .lineStart] []) (cs ++ ['$']) :=
    leads_lexeme ⟨rfl, rfl⟩ (l := .part (.assertion .lineStart)) rfl rfl (Nat.le_refl _)
  rw [after_after] at h
  have hend : Leads (after {} ([.assertion .lineStart] ++ es) (names ++ [])) ['$']
      (after {} (([.assertion .lineStart] ++ es) ++ [.assertion .lineEnd]) (names ++ [])) [] :=
    leads_lexeme ⟨rfl, rfl⟩ (l := .part (.assertion .lineEnd)) rfl
      (by simp [take, push, Reader.after]) (Nat.le_refl _)
  have hrun := ((hstart.trans h).trans hend).run (finish_eq_some_iff.2 ⟨rfl, rfl, rfl⟩)
  rw [Syntax.read?]
  simpa [body, Syntax.ofBranches, Reader.after, anchoredParts] using hrun

end Regex.Reader

open Regex.Reader

theorem read?_assemble_none {tokens : List Token} (htokens : ∀ token ∈ tokens, token.Readable)
    (hnodup : (tokens.flatMap Token.groupNames).Nodup) :
    Syntax.read? (assemble tokens none) = some (anchoredParts (tokens.flatMap Token.parts)) := by
  obtain ⟨names, -, hleads⟩ := leads_fragments (r := after {} [.assertion .lineStart] []) ⟨rfl, rfl⟩
    htokens hnodup fun n _ => List.not_mem_nil
  have h := read?_of_leads (hleads ['$'])
  rwa [String.ofList_toList, ← assemble_none] at h

theorem read?_assemble_append {before run : List Token} (hbefore : before ≠ [])
    (hvar : ∀ token ∈ run, token.name?.isSome) (htokens : ∀ token ∈ before ++ run, token.Readable)
    (hnodup : ((before ++ run).flatMap Token.groupNames).Nodup) :
    Syntax.read? (assemble (before ++ run) (some before.length)) =
      some (anchoredParts (before.flatMap Token.parts ++ nestedParts run)) := by
  rw [List.flatMap_append] at hnodup
  obtain ⟨hnodup₁, hnodup₂, hdisjoint⟩ := List.nodup_append.1 hnodup
  obtain ⟨names₁, hsub, hleads₁⟩ := leads_fragments (r := after {} [.assertion .lineStart] [])
    ⟨rfl, rfl⟩ (fun t ht => htokens t (List.mem_append_left _ ht)) hnodup₁ fun n _ => List.not_mem_nil
  obtain ⟨names₂, -, hleads₂⟩ := leads_nested
    (r := after (after {} [.assertion .lineStart] []) (before.flatMap Token.parts) names₁) ⟨rfl, rfl⟩
    (fun t ht => htokens t (List.mem_append_right _ ht)) hnodup₂ fun n hn hmem =>
      hdisjoint n (hsub n (by simpa [Reader.after] using hmem)) n hn rfl
  have h := (hleads₁ _).trans (hleads₂ '$' [] (by decide))
  rw [after_after, ← List.append_assoc] at h
  have hread := read?_of_leads h
  rwa [String.ofList_append, String.ofList_toList, String.ofList_toList, ← String.append_assoc,
    ← assemble_append hbefore hvar] at hread

theorem nested_append_eq_cons (tokens : List Token) :
    ∃ c t, (nested tokens).toList ++ ['$'] = c :: t ∧ c ≠ '?' := by
  cases tokens with
  | nil => exact ⟨'$', [], rfl, by decide⟩
  | cons token tokens => exact ⟨'(', _, by simp [nested]; rfl, by decide⟩

theorem read?_assemble_cons {separator : Option Char} {constraint name : String} {run : List Token}
    (hvar : ∀ token ∈ run, token.name?.isSome)
    (htokens : ∀ token ∈ .var separator constraint name :: run, token.Readable)
    (hnodup : ((Token.var separator constraint name :: run).flatMap Token.groupNames).Nodup) :
    Syntax.read? (assemble (.var separator constraint name :: run) (some 0)) =
      some (anchoredParts (separator.toList.map literal ++
        .repetition 0 (some 1) false
          (.group (.capture (some name)) ((Syntax.read? constraint).getD .empty)) ::
        nestedParts run)) := by
  rw [List.flatMap_cons] at hnodup
  obtain ⟨hnodup₁, hnodup₂, hdisjoint⟩ := List.nodup_append.1 hnodup
  obtain ⟨names₁, hsub, hleads₁⟩ := leads_fragment (r := after {} [.assertion .lineStart] [])
    ⟨rfl, rfl⟩ (htokens _ List.mem_cons_self) hnodup₁ fun n _ => List.not_mem_nil
  -- The question mark is read after the group of the first variable, and belongs to that group.
  obtain ⟨c, t, htail, hc⟩ := nested_append_eq_cons run
  have hitems : (after (after {} [.assertion .lineStart] [])
      (Token.var separator constraint name).parts names₁).items =
        .group (.capture (some name)) ((Syntax.read? constraint).getD .empty) ::
          ((separator.toList.map literal).reverse ++ [.assertion .lineStart]) := by
    simp [Reader.after, Token.parts]
  have hoptional := leads_optional (t := t) ⟨rfl, rfl⟩ hitems rfl hc
  rw [← htail] at hoptional
  have hstate : ({ after (after {} [.assertion .lineStart] [])
        (Token.var separator constraint name).parts names₁ with
      items := .repetition 0 (some 1) false (.group (.capture (some name))
        ((Syntax.read? constraint).getD .empty)) ::
          ((separator.toList.map literal).reverse ++ [.assertion .lineStart]) } : Reader) =
      after (after {} [.assertion .lineStart] []) (separator.toList.map literal ++
        [.repetition 0 (some 1) false
          (.group (.capture (some name)) ((Syntax.read? constraint).getD .empty))]) names₁ := by
    simp [Reader.after]
  rw [hstate] at hoptional
  obtain ⟨names₂, -, hleads₂⟩ := leads_nested
    (r := after (after {} [.assertion .lineStart] []) (separator.toList.map literal ++
      [.repetition 0 (some 1) false
        (.group (.capture (some name)) ((Syntax.read? constraint).getD .empty))]) names₁)
    ⟨rfl, rfl⟩ (fun t ht => htokens t (List.mem_cons_of_mem _ ht)) hnodup₂ fun n hn hmem =>
      hdisjoint n (hsub n (by simpa [Reader.after] using hmem)) n hn rfl
  have h := ((hleads₁ _).trans hoptional).trans (hleads₂ '$' [] (by decide))
  rw [after_after, ← List.cons_append, ← List.append_assoc] at h
  have hread := read?_of_leads h
  rw [assemble_cons fun t ht => ?_]
  · simpa [String.append_assoc] using hread
  · rcases List.mem_cons.1 ht with rfl | ht
    · rfl
    · exact hvar t ht

end RoutePatterns
