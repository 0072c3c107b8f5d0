import RoutePatterns.Pattern.Tokens
import RoutePatterns.Proofs.Pattern.Language

/-!
# Constraints, alone and in an expression

A value is checked alone, against its constraint in a group between the ends of the text. For a
constraint that does not look at the text around it, this says what its expression matches in any text
(`Token.admits_satisfies`). A constraint without conditions on positions is of this kind
(`portable_of_lookFree`).

The default constraints accept the texts of one or more characters that are not excluded
(`satisfies_defaultConstraint_iff`), which their expressions match wherever they stand.
-/

namespace RoutePatterns

namespace Regex

/-- What a text denotes that is ready for use. -/
theorem exprOfText?_of_ofText? {s : String} {r : Regex} (h : ofText? s = some r) :
    exprOfText? s = some r.expr := by
  simp only [ofText?, Option.bind_eq_bind, Option.bind_eq_some_iff] at h
  obtain ⟨e, he, _, -, x, hx, _, -, heq⟩ := h
  obtain rfl := Option.some.inj heq
  rw [exprOfText?, he]
  exact hx

namespace Reader

/-- A group without a name is read as the group of what is in it. -/
theorem leads_plainGroup {r : Reader} {e : Syntax} {cs : List Char} (hr : r.Literal)
    (hread : run {} cs = some e) (hgroup : Groupable cs) (hnew : ∀ n ∈ e.groupNames, n ∉ r.names) :
    ∃ names, ∀ t, Leads r (['(', '?', ':'] ++ cs ++ [')'] ++ t)
      (r.after [.group (.plain []) e] names) t := by
  obtain ⟨frames, branches, items, verbose, known, inClass⟩ := r
  obtain rfl : inClass = none := hr.inClass
  obtain rfl : verbose = false := hr.verbose
  obtain ⟨names, -, hleads⟩ := leads_group hread hgroup hnew ⟨.plain [], branches, items, false⟩
    frames
  refine ⟨names, fun t => ?_⟩
  have hopen := Leads.step hr.verbose (step_plainGroup _ hr.inClass hr.verbose (cs ++ ')' :: t))
    (by simp; omega)
  have h := hopen.trans (hleads t)
  simpa [Reader.after] using h

end Reader

end Regex

open Regex

/-- A constraint between the ends of the text is read as a group between them. -/
theorem read?_anchored {constraint : String} {e : Syntax} (he : Syntax.read? constraint = some e)
    (hgroup : Reader.Groupable constraint.toList) :
    Syntax.read? (anchored constraint) = some (Reader.anchoredParts [.group (.plain []) e]) := by
  obtain ⟨names, hleads⟩ := Reader.leads_plainGroup (r := Reader.after {} [.assertion .lineStart] [])
    ⟨rfl, rfl⟩ he hgroup fun n _ => List.not_mem_nil
  have hread := Reader.read?_of_leads (hleads ['$'])
  have htext : "^" ++ String.ofList (['(', '?', ':'] ++ constraint.toList ++ [')']) ++ "$" =
      anchored constraint := by
    apply String.toList_injective
    simp [anchored]
  rwa [htext] at hread

/-- A constraint between the ends of the text means its expression between them. -/
theorem exprOfText?_anchored {constraint : String} {x : Expr} (hx : exprOfText? constraint = some x)
    (hgroup : (exprOfText? ("(?:" ++ constraint ++ ")")).isSome) :
    exprOfText? (anchored constraint) = some (anchoredExpr [x]) := by
  obtain ⟨e, he, hresolve⟩ := Option.bind_eq_some_iff.1 hx
  obtain ⟨⟨x', f⟩, hwith, rfl⟩ := Option.map_eq_some_iff.1 hresolve
  have hread := read?_anchored he (groupable_of_exprOfText? hgroup)
  refine exprOfText?_of_read? hread (.cons ?_ .nil)
  have hchange : Flags.change {} [] = {} := rfl
  rw [Syntax.resolveWith?, hchange, hwith, Option.map_some]

variable {constraint value : String} {x : Expr}

theorem match_of_satisfies (hx : exprOfText? constraint = some x)
    (hgroup : (exprOfText? ("(?:" ++ constraint ++ ")")).isSome) (h : Satisfies constraint value) :
    x.Match value.toList 0 value.toList.length := by
  obtain ⟨r, hr, hmatch⟩ := h
  have hexpr := (exprOfText?_of_ofText? hr).symm.trans (exprOfText?_anchored hx hgroup)
  rw [isMatch, Option.some.inj hexpr, Expr.found_iff] at hmatch
  obtain ⟨p, q, hp, h⟩ := hmatch
  exact ((match_anchoredExpr hp).1 h).2.2

theorem satisfies_of_match (hx : exprOfText? constraint = some x)
    (hgroup : (exprOfText? ("(?:" ++ constraint ++ ")")).isSome)
    (hlimits : (constraintRegex? constraint).isSome)
    (h : x.Match value.toList 0 value.toList.length) : Satisfies constraint value := by
  obtain ⟨r, hr⟩ := Option.isSome_iff_exists.1 hlimits
  have hexpr := (exprOfText?_of_ofText? hr).symm.trans (exprOfText?_anchored hx hgroup)
  refine ⟨r, hr, ?_⟩
  rw [isMatch, Option.some.inj hexpr, Expr.found_iff]
  exact ⟨0, _, Nat.zero_le _, (match_anchoredExpr (Nat.zero_le _)).2 ⟨rfl, rfl, h⟩⟩

/-- A constraint that matches as a part of any text what it matches as a whole text. -/
structure Portable (constraint : String) : Prop where
  match_part : ∀ {cs : List Char} {p q : Nat} {value : List Char}, Between cs p q value →
    (Token.constraintExpr constraint).Match value 0 value.length →
      (Token.constraintExpr constraint).Match cs p q

theorem portable_of_lookFree (h : (Token.constraintExpr constraint).lookFree = true) :
    Portable constraint := by
  refine ⟨fun {cs p q value} hbetween hmatch => ?_⟩
  rw [Expr.match_part_iff h hbetween.le hbetween.le_length, hbetween.eq]
  obtain ⟨before, after, -, -, hq⟩ := between_iff.1 hbetween
  rwa [hq, Nat.add_sub_cancel_left]

/-- **What is accepted alone is matched in any text**, if the constraint is portable. -/
theorem Token.admits_satisfies {token : Token} (htoken : token.Readable)
    (hportable : ∀ separator constraint name, token = .var separator constraint name →
      Portable constraint) : token.Admits Satisfies := by
  cases token with
  | text content => trivial
  | var separator constraint name =>
    obtain ⟨-, hconstraint, hgroup⟩ := htoken
    obtain ⟨x, hx⟩ := Option.isSome_iff_exists.1 hconstraint
    intro cs p q value hbetween h
    refine (hportable _ _ _ rfl).match_part hbetween ?_
    rw [constraintExpr, hx, Option.getD_some]
    exact match_of_satisfies hx hgroup h

/-! ### Default constraints -/

namespace Regex

/-- The set of the characters of a list, as a class in brackets denotes it. -/
def bracketSet : List Char → CharSet
  | [] => .empty
  | [c] => .single c
  | c :: cs => .union (.single c) (bracketSet cs)

theorem contains_bracketSet (cs : List Char) (c : Char) :
    (bracketSet cs).contains c = true ↔ c ∈ cs := by
  induction cs with
  | nil => simp [bracketSet, CharSet.contains]
  | cons d cs ih =>
    cases cs with
    | nil => simp [bracketSet]
    | cons d' cs => simpa [bracketSet, CharSet.contains] using or_congr_right ih

/-- One or more characters that are not in a list. -/
def otherThan (cs : List Char) : Expr := .repetition 1 none true (.one (.complement (bracketSet cs)))

/-- So many characters of a set are matched one after the other. -/
theorem times_match_one_iff {set : CharSet} {cs s : List Char} {p q n : Nat} (h : Between cs p q s) :
    Times ((Expr.one set).Match cs) n p q ↔ s.length = n ∧ ∀ c ∈ s, set.contains c = true := by
  obtain ⟨before, after, rfl, rfl, rfl⟩ := between_iff.1 h
  clear h
  induction s generalizing before n with
  | nil =>
    cases n with
    | zero => simp [Times]
    | succ n =>
      simp only [Times, List.length_nil, Nat.add_zero]
      constructor
      · rintro ⟨m, ⟨rfl, -⟩, h⟩
        have := h.le fun h => (Expr.forward_match _ _).le h
        omega
      · rintro ⟨h, -⟩
        cases h
  | cons c s ih =>
    cases n with
    | zero => simp [Times]
    | succ n =>
      have hget : (before ++ c :: s ++ after)[before.length]? = some c := by simp
      have hih := ih (before ++ [c]) (n := n)
      simp only [List.append_assoc, List.singleton_append, List.length_append, List.length_cons,
        List.length_nil, Nat.zero_add] at hih
      have hq : before.length + (c :: s).length = before.length + 1 + s.length := by
        rw [List.length_cons]
        omega
      rw [Times, hq]
      simp only [Expr.Match, hget, Option.any_some, List.length_cons, List.forall_mem_cons,
        Nat.add_right_cancel_iff]
      rw [List.append_assoc, List.cons_append]
      constructor
      · rintro ⟨m, ⟨rfl, hc⟩, h⟩
        obtain ⟨hlen, hs⟩ := hih.1 h
        exact ⟨hlen, hc, hs⟩
      · rintro ⟨hlen, hc, hs⟩
        exact ⟨_, ⟨rfl, hc⟩, hih.2 ⟨hlen, hs⟩⟩

theorem match_otherThan_iff {excluded cs s : List Char} {p q : Nat} (h : Between cs p q s) :
    (otherThan excluded).Match cs p q ↔ s ≠ [] ∧ ∀ c ∈ s, c ∉ excluded := by
  have hcontains (c : Char) :
      (CharSet.complement (bracketSet excluded)).contains c = true ↔ c ∉ excluded := by
    rw [CharSet.contains, Bool.not_eq_true', ← Bool.not_eq_true, contains_bracketSet]
  constructor
  · rintro ⟨k, -, htimes⟩
    obtain ⟨hlen, hs⟩ := (times_match_one_iff h).1 htimes
    exact ⟨List.ne_nil_of_length_pos (by omega), fun c hc => (hcontains c).1 (hs c hc)⟩
  · rintro ⟨hne, hs⟩
    have := List.length_pos_iff.2 hne
    exact ⟨s.length - 1, fun m hm => by (cases hm),
      (times_match_one_iff h).2 ⟨by omega, fun c hc => (hcontains c).2 (hs c hc)⟩⟩

end Regex

/-- The characters that a default constraint excludes. -/
def excluded (default : Char) (next : Option Char) : List Char :=
  default :: (next.filter (· != default)).toList

theorem mem_excluded {default c : Char} {next : Option Char} :
    c ∈ excluded default next ↔ c = default ∨ next = some c := by
  simp only [excluded, List.mem_cons, Option.mem_toList, Option.filter_eq_some_iff, bne_iff_ne]
  constructor
  · exact fun h => h.imp_right And.left
  · intro h
    by_cases hc : c = default
    · exact .inl hc
    · exact .inr ⟨h.resolve_left hc, hc⟩

/-- All default constraints are expressions, alone and in a group, and within the limits. -/
theorem exprOfText?_defaultConstraint_of_mem (part : Part) :
    ∀ next ∈ none :: separators.map some,
      exprOfText? (defaultConstraint part.separator next) =
          some (otherThan (excluded part.separator next)) ∧
        (exprOfText? ("(?:" ++ defaultConstraint part.separator next ++ ")")).isSome ∧
        (constraintRegex? (defaultConstraint part.separator next)).isSome := by
  cases part <;> decide +kernel

theorem mem_of_isSeparator {next : Option Char} (h : ∀ c ∈ next, isSeparator c = true) :
    next ∈ none :: separators.map some := by
  cases next with
  | none => exact List.mem_cons_self
  | some c => exact List.mem_cons_of_mem _ (List.mem_map_of_mem (isSeparator_iff.1 (h c rfl)))

namespace Token

/-- The constraint of a variable is the one that the compiler derives. -/
def IsDefault (part : Part) : Token → Prop
  | text _ => True
  | var _ constraint _ => ∃ next, constraint = defaultConstraint part.separator next ∧
    ∀ c ∈ next, isSeparator c = true

end Token

variable {part : Part} {next : Option Char}

/-- **A default constraint accepts the texts of one or more characters other than the default separator
and the next one.** -/
theorem satisfies_defaultConstraint_iff (hnext : ∀ c ∈ next, isSeparator c = true) :
    Satisfies (defaultConstraint part.separator next) value ↔
      value ≠ "" ∧ ∀ c ∈ value.toList, c ≠ part.separator ∧ next ≠ some c := by
  obtain ⟨hexpr, hgroup, hlimits⟩ :=
    exprOfText?_defaultConstraint_of_mem part next (mem_of_isSeparator hnext)
  have hmatch := @match_otherThan_iff (excluded part.separator next) _ _ _ _ (.whole value.toList)
  simp only [mem_excluded, not_or, ne_eq, String.toList_eq_nil_iff] at hmatch
  rw [← ne_eq] at hmatch
  exact ⟨fun h => hmatch.1 (match_of_satisfies hexpr hgroup h),
    fun h => satisfies_of_match hexpr hgroup hlimits (hmatch.2 h)⟩

theorem portable_defaultConstraint (hnext : ∀ c ∈ next, isSeparator c = true) :
    Portable (defaultConstraint part.separator next) := by
  obtain ⟨hexpr, -, -⟩ := exprOfText?_defaultConstraint_of_mem part next (mem_of_isSeparator hnext)
  refine portable_of_lookFree ?_
  rw [Token.constraintExpr, hexpr]
  rfl

namespace Token

variable {token : Token}

theorem IsDefault.readable (h : token.IsDefault part) (hname : ∀ n ∈ token.name?, IsGroupName n) :
    token.Readable := by
  cases token with
  | text content => trivial
  | var separator constraint name =>
    obtain ⟨next, rfl, hnext⟩ := h
    obtain ⟨hexpr, hgroup, -⟩ :=
      exprOfText?_defaultConstraint_of_mem part next (mem_of_isSeparator hnext)
    exact ⟨hname name rfl, hexpr ▸ rfl, hgroup⟩

theorem IsDefault.groupNames (h : token.IsDefault part) : token.groupNames = token.name?.toList := by
  cases token with
  | text content => rfl
  | var separator constraint name =>
    obtain ⟨next, rfl, hnext⟩ := h
    obtain ⟨hexpr, -, -⟩ := exprOfText?_defaultConstraint_of_mem part next (mem_of_isSeparator hnext)
    rw [Token.groupNames, hexpr]
    rfl

/-- The groups in the fragments of tokens with default constraints are those of the variables. -/
theorem flatMap_groupNames_of_isDefault {tokens : List Token}
    (h : ∀ token ∈ tokens, token.IsDefault part) : tokens.flatMap groupNames = names tokens := by
  rw [names, List.filterMap_eq_flatMap_toList]
  exact List.flatMap_congr fun token htoken => (h token htoken).groupNames

theorem IsDefault.admits (h : token.IsDefault part) (hreadable : token.Readable) :
    token.Admits Satisfies := by
  refine admits_satisfies hreadable ?_
  rintro separator constraint name rfl
  obtain ⟨next, rfl, hnext⟩ := h
  exact portable_defaultConstraint hnext

theorem IsDefault.reflects (h : token.IsDefault part) : token.Reflects Satisfies := by
  cases token with
  | text content => trivial
  | var separator constraint name =>
    obtain ⟨next, rfl, hnext⟩ := h
    obtain ⟨hexpr, -, -⟩ :=
      exprOfText?_defaultConstraint_of_mem part next (mem_of_isSeparator hnext)
    rw [Reflects, constraintExpr, hexpr, Option.getD_some]
    refine ⟨rfl, fun hbetween hmatch => (satisfies_defaultConstraint_iff hnext).2 ?_⟩
    have h := (match_otherThan_iff hbetween).1 hmatch
    simpa only [mem_excluded, not_or, ne_eq, String.toList_eq_nil_iff] using h

end Token

end RoutePatterns
