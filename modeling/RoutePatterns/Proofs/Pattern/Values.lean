import Mathlib.Data.List.Forall2
import RoutePatterns.Proofs.Bindings
import RoutePatterns.Proofs.Pattern.Language

/-!
# The values of a generated text

A variable takes part in a generated text if it is required, or if it and all variables of the optional
run before it have a value (`Emits`); its value is then filled in, and otherwise nothing is
(`lookup_emitted`). `exists_part_of_filled` tells the same of the text of an optional run.
-/

namespace RoutePatterns

/-! ### Emitted values -/

/-- The names up to a name, which is the last one. -/
def upTo (names : List String) (name : String) : List String := names.take (names.idxOf name + 1)

theorem upTo_cons_self (name : String) (names : List String) : upTo (name :: names) name = [name] := by
  simp [upTo]

theorem upTo_cons_of_ne {name other : String} (h : other ≠ name) (names : List String) :
    upTo (other :: names) name = other :: upTo names name := by
  simp [upTo, List.idxOf_cons_ne _ h]

theorem upTo_append {names names' : List String} {name : String} (h : name ∉ names) :
    upTo (names ++ names') name = names ++ upTo names' name := by
  induction names with
  | nil => rfl
  | cons other names ih =>
    have hne : other ≠ name := by
      rintro rfl
      exact h List.mem_cons_self
    rw [List.cons_append, upTo_cons_of_ne hne, ih (List.not_mem_of_not_mem_cons h),
      List.cons_append]

theorem upTo_subset (names : List String) (name : String) : upTo names name ⊆ names :=
  List.take_subset _ _

variable {optional : List String} {params : Lookup} {tokens before run : List Token} {s : String}
  {name : String}

/-- A value of a variable is emitted if this variable and all before it have one. -/
theorem lookup_emitted (hname : name ∈ Token.names tokens) :
    ((∀ n ∈ upTo (Token.names tokens) name, (usedValue optional params n).isSome) →
        (params name).isSome ∧ (emitted optional params tokens).lookup name = params name) ∧
      ((¬ ∀ n ∈ upTo (Token.names tokens) name, (usedValue optional params n).isSome) →
        (emitted optional params tokens).lookup name = none) := by
  induction tokens with
  | nil => cases hname
  | cons token tokens ih =>
    cases token with
    | text content => exact ih hname
    | var separator constraint other =>
      change name ∈ other :: Token.names tokens at hname
      change ((∀ n ∈ upTo (other :: Token.names tokens) name, _) → _) ∧
        ((¬ ∀ n ∈ upTo (other :: Token.names tokens) name, _) → _)
      rw [emitted]
      by_cases heq : other = name
      · subst heq
        rw [upTo_cons_self]
        cases hused : usedValue optional params other with
        | none => simp [hused]
        | some value =>
          have hparam : params other = some value := (Option.filter_eq_some_iff.1 hused).1
          simp [hused, hparam]
      · rw [upTo_cons_of_ne heq, List.forall_mem_cons]
        cases hused : usedValue optional params other with
        | none => simp
        | some value =>
          have hne : (name == other) = false := beq_eq_false_iff_ne.2 (Ne.symm heq)
          simp only [List.lookup_cons, hne, Option.isSome_some, true_and]
          exact ih ((List.mem_cons.1 hname).resolve_left (Ne.symm heq))

/-- A variable takes part in a generated text: it is required, or no variable of the optional run up to
it is absent or empty. -/
def Emits (optional : List String) (params : Lookup) (name : String) : Prop :=
  name ∈ optional → ∀ n ∈ upTo optional name, ∃ value, params n = some value ∧ value ≠ ""

theorem isSome_usedValue_iff (hname : name ∈ optional) :
    (usedValue optional params name).isSome ↔ ∃ value, params name = some value ∧ value ≠ "" := by
  rw [Option.isSome_iff_exists]
  refine exists_congr fun value => ?_
  rw [usedValue, Option.filter_eq_some_iff]
  simp [hname]

/-- Required variables have values when a text is generated. -/
theorem isSome_usedValue_of_renderFrom {first : Bool}
    (hbefore : ∀ n ∈ Token.names before, n ∉ optional)
    (h : renderFrom optional params first (before ++ run) = .ok s) :
    ∀ n ∈ Token.names before, (usedValue optional params n).isSome := by
  induction before generalizing s first with
  | nil => exact fun n hn => by cases hn
  | cons token before ih =>
    cases token with
    | text content =>
      obtain ⟨rest, hrest, -⟩ := renderFrom_text_eq_ok_iff.1 h
      exact ih hbefore hrest
    | var separator constraint name =>
      obtain ⟨hname, hbefore⟩ := List.forall_mem_cons.1 hbefore
      rcases renderFrom_var_eq_ok_iff.1 h with ⟨-, hmem, -⟩ | ⟨value, rest, hused, -, hrest, -⟩
      · exact absurd hmem hname
      · exact List.forall_mem_cons.2 ⟨Option.isSome_of_eq_some hused, ih hbefore hrest⟩

/-- **The value of a variable is filled in exactly if the variable takes part.** -/
theorem lookup_emitted_of_render (hbefore : ∀ n ∈ Token.names before, n ∉ Token.names run)
    (h : render (before ++ run) (Token.names run) params = .ok s)
    (hname : name ∈ Token.names (before ++ run)) :
    (Emits (Token.names run) params name → (params name).isSome ∧
        (emitted (Token.names run) params (before ++ run)).lookup name = params name) ∧
      (¬ Emits (Token.names run) params name →
        (emitted (Token.names run) params (before ++ run)).lookup name = none) := by
  have hused := isSome_usedValue_of_renderFrom hbefore h
  have hiff : (∀ n ∈ upTo (Token.names (before ++ run)) name,
      (usedValue (Token.names run) params n).isSome) ↔ Emits (Token.names run) params name := by
    have happend : Token.names (before ++ run) = Token.names before ++ Token.names run :=
      List.filterMap_append
    rw [happend] at hname ⊢
    by_cases hrun : name ∈ Token.names run
    · have hmem : name ∉ Token.names before := fun hmem => hbefore name hmem hrun
      rw [upTo_append hmem]
      constructor
      · intro hall _ n hn
        exact (isSome_usedValue_iff (upTo_subset _ _ hn)).1 (hall n (List.mem_append_right _ hn))
      · intro hemits n hn
        rcases List.mem_append.1 hn with hn | hn
        · exact hused n hn
        · exact (isSome_usedValue_iff (upTo_subset _ _ hn)).2 (hemits hrun n hn)
    · -- A required variable comes before the run, where all variables have values.
      refine ⟨fun _ hmem => absurd hmem hrun, fun _ n hn => hused n ?_⟩
      have hmem := (List.mem_append.1 hname).resolve_right hrun
      have htake : upTo (Token.names before ++ Token.names run) name ⊆ Token.names before := by
        rw [upTo, List.idxOf_append_of_mem hmem, List.take_append_of_le_length]
        · exact List.take_subset _ _
        · exact List.idxOf_lt_length_of_mem hmem
      exact htake hn
  rw [← hiff]
  exact lookup_emitted hname

/-! ### The first token -/

theorem emitted_detached (optional : List String) (params : Lookup) (tokens : List Token) :
    emitted optional params (detached optional tokens) = emitted optional params tokens := by
  cases tokens with
  | nil => rfl
  | cons token tokens =>
    cases token with
    | text content => rfl
    | var separator constraint name =>
      rw [detached]
      split <;> rfl

theorem names_detached (optional : List String) (tokens : List Token) :
    Token.names (detached optional tokens) = Token.names tokens := by
  cases tokens with
  | nil => rfl
  | cons token tokens =>
    cases token with
    | text content => rfl
    | var separator constraint name =>
      rw [detached]
      split <;> rfl

variable {accepts : String → String → Prop} {values values' : List (String × String)}

theorem delimited_detached (h : Delimited accepts tokens) :
    Delimited accepts (detached optional tokens) := by
  cases tokens with
  | nil => exact h
  | cons token tokens =>
    cases token with
    | text content => exact h
    | var separator constraint name =>
      rw [detached]
      split <;> exact h

/-! ### The initial part of a run -/

/-- A text is a variable with its separator and a value that its constraint accepts. -/
inductive Rendered (accepts : String → String → Prop) : Token → String → Prop
  | var {separator : Option Char} {constraint name value : String}
      (hvalue : accepts constraint value) :
      Rendered accepts (.var separator constraint name) (separatorText separator ++ value)

/-- A text that is filled into an optional run is an initial part of the run. -/
theorem exists_part_of_filled (hrun : ∀ token ∈ run, token.isOneOf optional = true)
    (h : Filled accepts optional run values s) :
    ∃ part rest texts, run = part ++ rest ∧ List.Forall₂ (Rendered accepts) part texts ∧
      s = String.join texts := by
  induction h with
  | nil => exact ⟨[], [], [], rfl, .nil, String.join_nil.symm⟩
  | text _ _ => cases hrun _ List.mem_cons_self
  | @var separator constraint name value tokens values s hvalue h ih =>
    obtain ⟨part, rest, texts, rfl, hpart, rfl⟩ := ih fun t ht => hrun t (List.mem_cons_of_mem _ ht)
    exact ⟨_ :: part, rest, _ :: texts, rfl, .cons (.var hvalue) hpart, String.join_cons.symm⟩
  | @stop separator constraint name tokens _ => exact ⟨[], _, [], rfl, .nil, String.join_nil.symm⟩

/-- An initial part of an optional run can be filled in. -/
theorem exists_filled_of_part {part rest : List Token} {texts : List String}
    (hrest : ∀ token ∈ rest, token.isOneOf optional = true)
    (h : List.Forall₂ (Rendered accepts) part texts) :
    ∃ values, Filled accepts optional (part ++ rest) values (String.join texts) := by
  induction h with
  | nil =>
    rw [String.join_nil]
    exact ⟨[], filled_empty hrest⟩
  | cons htoken _ ih =>
    obtain ⟨values, hfilled⟩ := ih
    cases htoken with
    | var hvalue =>
      rw [String.join_cons]
      exact ⟨_, hfilled.var hvalue⟩

theorem Filled.ne_empty (htokens : ∀ separator constraint name,
      .var separator constraint name ∈ tokens → ∀ value, accepts constraint value → value ≠ "")
    (h : Filled accepts optional tokens values s) : ∀ v ∈ values, v.2 ≠ "" := by
  induction h with
  | nil => exact fun v hv => by cases hv
  | text _ ih =>
    exact ih fun separator constraint name hmem =>
      htokens separator constraint name (List.mem_cons_of_mem _ hmem)
  | var hvalue _ ih =>
    refine List.forall_mem_cons.2 ⟨htokens _ _ _ List.mem_cons_self _ hvalue, ih ?_⟩
    exact fun separator constraint name hmem =>
      htokens separator constraint name (List.mem_cons_of_mem _ hmem)
  | stop _ => exact fun v hv => by cases hv

/-! ### Matched texts -/

namespace Matched

theorem names_sublist (h : Matched accepts optional tokens values s) :
    (values.map Prod.fst).Sublist (Token.names tokens) := by
  cases h with
  | filled h => exact names_detached optional tokens ▸ h.names_sublist
  | skipped htokens _ h _ =>
    rw [htokens]
    exact h.names_sublist.cons _

/-- **A matched text can be read back as values in one way only**, if the values are delimited. -/
theorem unique (hdelimited : Delimited accepts tokens)
    (hrun : ∀ separator constraint name run, tokens = .var separator constraint name :: run →
      name ∈ optional → ∀ token ∈ run, token.isOneOf optional = true)
    (h : Filled accepts optional (detached optional tokens) values s)
    (h' : Matched accepts optional tokens values' s) : values = values' := by
  cases h' with
  | filled h' => exact h.unique (delimited_detached hdelimited) h'
  | @skipped separator constraint name run s' htokens hname h' hs =>
    have hall := hrun separator constraint name run htokens hname
    subst htokens
    obtain ⟨hne, hnext, hdelimited⟩ := hdelimited
    rw [detached, if_pos hname] at h
    cases h with
    | text h =>
      have hs' := (String.append_right_inj _).1 hs
      cases h with
      | @var _ _ _ value _ _ s'' hvalue h =>
        -- The value would begin with the character that follows it.
        have hvalue_ne := hne value hvalue
        rw [separatorText_none, String.empty_append] at hs'
        cases run with
        | nil =>
          cases h'
          exact absurd (String.append_eq_empty_iff.1 hs').1 hvalue_ne
        | cons token run =>
          obtain ⟨d, hfirst, hvalues⟩ := hnext token rfl
          obtain ⟨c, cs, hcs⟩ := List.exists_cons_of_ne_nil (String.toList_eq_nil_iff.not.2 hvalue_ne)
          have hhead := h'.eq_of_mem_head? (d := d)
            (fun t ht => Option.some.inj ht ▸ hfirst) c (by rw [← hs', String.toList_append, hcs]; rfl)
          exact absurd (hcs ▸ hhead ▸ List.mem_cons_self) (hvalues value hvalue)
      | stop _ =>
        subst hs'
        exact (filled_empty hall).unique hdelimited h'

end Matched

end RoutePatterns
