import RoutePatterns.Pattern.Tokens
import RoutePatterns.Route.Generate

/-!
# Texts filled into tokens

`Filled accepts optional tokens values s` says that `s` is a list of tokens with values in the places of
its variables, where the text may stop before any variable of `optional`. Values are read off a text in
one way only if every variable is followed by a character that its values do not contain
(`Filled.unique`).

The generator fills tokens in this way (`filled_of_renderFrom`, `renderFrom_of_filled`), but for its
first token: if that one may be missing, its separator is written all the same, as if it were a text of
its own (`detached`).
-/

namespace RoutePatterns

@[simp] theorem separatorText_none : separatorText none = "" := rfl

/-- A text that consists of tokens with values for their variables, up to the end or up to an optional
variable. -/
inductive Filled (accepts : String → String → Prop) (optional : List String) :
    List Token → List (String × String) → String → Prop
  | nil : Filled accepts optional [] [] ""
  | text {content : String} {tokens : List Token} {values : List (String × String)} {s : String}
      (h : Filled accepts optional tokens values s) :
      Filled accepts optional (.text content :: tokens) values (content ++ s)
  | var {separator : Option Char} {constraint name value : String} {tokens : List Token}
      {values : List (String × String)} {s : String} (hvalue : accepts constraint value)
      (h : Filled accepts optional tokens values s) :
      Filled accepts optional (.var separator constraint name :: tokens) ((name, value) :: values)
        (separatorText separator ++ value ++ s)
  | stop {separator : Option Char} {constraint name : String} {tokens : List Token}
      (hname : name ∈ optional) :
      Filled accepts optional (.var separator constraint name :: tokens) [] ""

variable {accepts : String → String → Prop} {optional : List String} {tokens tokens' : List Token}
  {values values' : List (String × String)} {s s' : String}

namespace Filled

theorem append (h : Filled accepts [] tokens values s) (h' : Filled accepts optional tokens' values' s') :
    Filled accepts optional (tokens ++ tokens') (values ++ values') (s ++ s') := by
  induction h with
  | nil => rwa [String.empty_append]
  | text _ ih =>
    rw [String.append_assoc]
    exact .text ih
  | var hvalue _ ih =>
    rw [String.append_assoc]
    exact .var hvalue ih
  | stop hname => cases hname

/-- Tokens that are not optional are filled to their end. -/
theorem split {before run : List Token} (hbefore : ∀ name ∈ Token.names before, name ∉ optional)
    (h : Filled accepts optional (before ++ run) values s) :
    ∃ values₁ s₁ values₂ s₂, values = values₁ ++ values₂ ∧ s = s₁ ++ s₂ ∧
      Filled accepts [] before values₁ s₁ ∧ Filled accepts optional run values₂ s₂ := by
  induction before generalizing values s with
  | nil => exact ⟨[], "", values, s, rfl, String.empty_append.symm, .nil, h⟩
  | cons token before ih =>
    cases h with
    | text h =>
      obtain ⟨values₁, s₁, values₂, s₂, rfl, rfl, h₁, h₂⟩ := ih hbefore h
      exact ⟨values₁, _, values₂, s₂, rfl, String.append_assoc.symm, .text h₁, h₂⟩
    | var hvalue h =>
      have hbefore' := List.forall_mem_cons.1 hbefore
      obtain ⟨values₁, s₁, values₂, s₂, rfl, rfl, h₁, h₂⟩ := ih hbefore'.2 h
      exact ⟨_, _, values₂, s₂, rfl, String.append_assoc.symm, .var hvalue h₁, h₂⟩
    | stop hname => exact absurd hname (hbefore _ List.mem_cons_self)

/-- Values are filled in for variables of the tokens. -/
theorem names_sublist (h : Filled accepts optional tokens values s) :
    (values.map Prod.fst).Sublist (Token.names tokens) := by
  induction h with
  | nil => exact .slnil
  | text _ ih => exact ih
  | var _ _ ih => exact ih.cons_cons _
  | stop _ => exact List.nil_sublist _

end Filled

/-! ### Reading values back -/

/-- The character that the text of a token begins with. -/
def Token.first? : Token → Option Char
  | .text content => content.toList.head?
  | .var separator _ _ => separator

/-- Every variable takes values that are not empty, and is followed by a token that begins with a
character that they do not contain, unless it is the last token. -/
def Delimited (accepts : String → String → Prop) : List Token → Prop
  | [] => True
  | .text _ :: tokens => Delimited accepts tokens
  | .var _ constraint _ :: tokens =>
    (∀ value, accepts constraint value → value ≠ "") ∧
      (∀ next ∈ tokens.head?, ∃ d, next.first? = some d ∧
        ∀ value, accepts constraint value → d ∉ value.toList) ∧
      Delimited accepts tokens

/-- A list is split in one way before a character that is not in the first part. -/
theorem eq_of_append_eq_of_head? {d : Char} {v v' t t' : List Char} (hv : d ∉ v) (hv' : d ∉ v')
    (ht : ∀ c ∈ t.head?, c = d) (ht' : ∀ c ∈ t'.head?, c = d) (h : v ++ t = v' ++ t') :
    v = v' ∧ t = t' := by
  induction v generalizing v' with
  | nil =>
    cases v' with
    | nil => exact ⟨rfl, h⟩
    | cons c v' =>
      obtain rfl : t = c :: v' ++ t' := h
      exact absurd (ht c rfl ▸ List.mem_cons_self) hv'
  | cons c v ih =>
    cases v' with
    | nil =>
      obtain rfl : c :: v ++ t = t' := h
      exact absurd (ht' c rfl ▸ List.mem_cons_self) hv
    | cons c' v' =>
      obtain ⟨rfl, htail⟩ := List.cons.inj h
      obtain ⟨rfl, rfl⟩ := ih (List.not_mem_of_not_mem_cons hv) (List.not_mem_of_not_mem_cons hv')
        htail
      exact ⟨rfl, rfl⟩

theorem append_append_ne_empty {a b c : String} (hb : b ≠ "") : a ++ b ++ c ≠ "" := by
  intro h
  simp only [String.append_eq_empty_iff] at h
  exact hb h.1.2

namespace Filled

/-- A text that goes on with a token begins with the character of the token. -/
theorem eq_of_mem_head? {d : Char} (h : Filled accepts optional tokens values s)
    (hfirst : ∀ token ∈ tokens.head?, token.first? = some d) : ∀ c ∈ s.toList.head?, c = d := by
  intro c hc
  cases h with
  | nil => cases hc
  | @text content tokens values s h =>
    obtain ⟨rest, hrest⟩ := List.head?_eq_some_iff.1 (hfirst _ rfl)
    rw [String.toList_append, hrest] at hc
    exact (Option.some.inj hc).symm
  | @var separator constraint name value tokens values s hvalue h =>
    obtain rfl : separator = some d := hfirst _ rfl
    simp only [separatorText, String.toList_append, String.toList_ofList] at hc
    exact (Option.some.inj hc).symm
  | stop _ => cases hc

/-- **A text can be read back as values in one way only**, if the values are delimited. -/
theorem unique (hdelimited : Delimited accepts tokens) (h : Filled accepts optional tokens values s)
    (h' : Filled accepts optional tokens values' s) : values = values' := by
  induction h generalizing values' with
  | nil =>
    cases h'
    rfl
  | @text content tokens values s h ih =>
    generalize hs : content ++ s = s' at h'
    cases h' with
    | text h' =>
      obtain rfl := String.append_right_inj content |>.1 hs
      exact ih hdelimited h'
  | @var separator constraint name value tokens values s hvalue h ih =>
    obtain ⟨hne, hnext, hdelimited⟩ := hdelimited
    generalize hs : separatorText separator ++ value ++ s = s' at h'
    cases h' with
    | @var _ _ _ value' _ values' s' hvalue' h' =>
      rw [String.append_assoc, String.append_assoc, String.append_right_inj] at hs
      -- Both values end before the character that the next token begins with.
      obtain ⟨rfl, rfl⟩ : value = value' ∧ s = s' := by
        cases tokens with
        | nil =>
          cases h
          cases h'
          exact ⟨(String.append_left_inj "").1 hs, rfl⟩
        | cons token tokens =>
          obtain ⟨d, hd, hvalues⟩ := hnext token rfl
          have hfirst : ∀ t ∈ (token :: tokens).head?, t.first? = some d := by
            rintro t ⟨⟩
            exact hd
          have hlists := congrArg String.toList hs
          rw [String.toList_append, String.toList_append] at hlists
          obtain ⟨hv, ht⟩ := eq_of_append_eq_of_head? (hvalues value hvalue) (hvalues value' hvalue')
            (h.eq_of_mem_head? hfirst) (h'.eq_of_mem_head? hfirst) hlists
          exact ⟨String.toList_injective hv, String.toList_injective ht⟩
      rw [ih hdelimited h']
    | stop _ => exact absurd hs (append_append_ne_empty (hne value hvalue))
  | @stop separator constraint name tokens _ =>
    generalize hs : "" = s' at h'
    cases h' with
    | var hvalue _ => exact absurd hs.symm (append_append_ne_empty (hdelimited.1 _ hvalue))
    | stop _ => rfl

end Filled

/-! ### Generation -/

/-- The values that are filled in, up to the first optional variable without a value. -/
def emitted (optional : List String) (params : Lookup) : List Token → List (String × String)
  | [] => []
  | .text _ :: tokens => emitted optional params tokens
  | .var _ _ name :: tokens =>
    match usedValue optional params name with
    | some value => (name, value) :: emitted optional params tokens
    | none => []

/-- A value is accepted by a constraint. -/
def Satisfies (constraint value : String) : Prop :=
  ∃ r, constraintRegex? constraint = some r ∧ r.isMatch value = true

theorem checkConstraint_eq_ok_iff {name constraint value : String} :
    checkConstraint name constraint value = .ok () ↔ Satisfies constraint value := by
  rw [checkConstraint, Satisfies]
  cases constraintRegex? constraint with
  | none => simp [checkWith]
  | some r => cases h : r.isMatch value <;> simp [checkWith, h]

/-- The tokens with the separator of the first one as a text of its own, if the first one is an optional
variable. -/
def detached (optional : List String) : List Token → List Token
  | .var separator constraint name :: tokens =>
    if name ∈ optional then .text (separatorText separator) :: .var none constraint name :: tokens
    else .var separator constraint name :: tokens
  | tokens => tokens

variable {params : Lookup}

theorem renderFrom_text (first : Bool) (content : String) :
    renderFrom optional params first (.text content :: tokens) =
      (renderFrom optional params false tokens).map (content ++ ·) := by
  rw [renderFrom]
  cases renderFrom optional params false tokens <;> rfl

theorem renderFrom_var_of_some {first : Bool} {separator : Option Char} {constraint name value : String}
    (hused : usedValue optional params name = some value) :
    renderFrom optional params first (.var separator constraint name :: tokens) =
      (checkConstraint name constraint value).bind fun _ =>
        (renderFrom optional params false tokens).map (separatorText separator ++ value ++ ·) := by
  rw [renderFrom, hused]
  dsimp only
  cases checkConstraint name constraint value with
  | error e => rfl
  | ok u => cases renderFrom optional params false tokens <;> rfl

theorem renderFrom_var_of_none {first : Bool} {separator : Option Char} {constraint name : String}
    (hused : usedValue optional params name = none) :
    renderFrom optional params first (.var separator constraint name :: tokens) =
      if name ∈ optional then .ok (if first then separatorText separator else "")
      else .error (.missing name) := by
  rw [renderFrom, hused]
  simp only [List.contains_iff_mem]

theorem renderFrom_text_eq_ok_iff {first : Bool} {content : String} :
    renderFrom optional params first (.text content :: tokens) = .ok s ↔
      ∃ rest, renderFrom optional params false tokens = .ok rest ∧ s = content ++ rest := by
  rw [renderFrom_text]
  cases renderFrom optional params false tokens with
  | error e => simp [Except.map]
  | ok rest => simp [Except.map, eq_comm]

/-- A text is generated up to a variable that is missing, or through its value. -/
theorem renderFrom_var_eq_ok_iff {first : Bool} {separator : Option Char} {constraint name : String} :
    renderFrom optional params first (.var separator constraint name :: tokens) = .ok s ↔
      (usedValue optional params name = none ∧ name ∈ optional ∧
          s = if first then separatorText separator else "") ∨
        ∃ value rest, usedValue optional params name = some value ∧ Satisfies constraint value ∧
          renderFrom optional params false tokens = .ok rest ∧
          s = separatorText separator ++ value ++ rest := by
  cases hused : usedValue optional params name with
  | none =>
    rw [renderFrom_var_of_none hused]
    by_cases hname : name ∈ optional
    · simp [hname, eq_comm]
    · simp [hname]
  | some value =>
    rw [renderFrom_var_of_some hused]
    constructor
    · intro h
      cases hcheck : checkConstraint name constraint value with
      | error e => rw [hcheck] at h; cases h
      | ok u =>
        cases hrest : renderFrom optional params false tokens with
        | error e => rw [hcheck, hrest] at h; cases h
        | ok rest =>
          rw [hcheck, hrest] at h
          exact .inr ⟨value, rest, rfl, checkConstraint_eq_ok_iff.1 hcheck, rfl, (Except.ok.inj h).symm⟩
    · rintro (⟨hnone, -⟩ | ⟨value', rest, heq, hvalue, hrest, rfl⟩)
      · cases hnone
      · obtain rfl := Option.some.inj heq
        rw [checkConstraint_eq_ok_iff.2 hvalue, hrest]
        rfl

/-- The first token differs from the others only in that its separator is never left out. -/
theorem renderFrom_true :
    renderFrom optional params true tokens =
      renderFrom optional params false (detached optional tokens) := by
  cases tokens with
  | nil => rfl
  | cons token tokens =>
    cases token with
    | text content => rfl
    | var separator constraint name =>
      rw [detached]
      cases hused : usedValue optional params name with
      | none =>
        split
        · -- The text ends here, but only the first variable leaves its separator behind.
          next hname =>
          rw [renderFrom_text, renderFrom_var_of_none hused, renderFrom_var_of_none hused,
            if_pos hname, if_pos hname]
          simp [Except.map]
        · next hname =>
          rw [renderFrom_var_of_none hused, renderFrom_var_of_none hused, if_neg hname, if_neg hname]
      | some value =>
        split
        · rw [renderFrom_text, renderFrom_var_of_some hused, renderFrom_var_of_some hused]
          cases checkConstraint name constraint value with
          | error e => rfl
          | ok u =>
            cases renderFrom optional params false tokens with
            | error e => rfl
            | ok rest => simp [Except.map, Except.bind, separatorText, String.append_assoc]
        · rw [renderFrom_var_of_some hused, renderFrom_var_of_some hused]

/-- **A generated text is filled in with the values that are used.** -/
theorem filled_of_renderFrom (h : renderFrom optional params false tokens = .ok s) :
    Filled Satisfies optional tokens (emitted optional params tokens) s := by
  induction tokens generalizing s with
  | nil =>
    obtain rfl := Except.ok.inj h
    exact .nil
  | cons token tokens ih =>
    cases token with
    | text content =>
      obtain ⟨rest, hrest, rfl⟩ := renderFrom_text_eq_ok_iff.1 h
      exact .text (ih hrest)
    | var separator constraint name =>
      rw [emitted]
      rcases renderFrom_var_eq_ok_iff.1 h with ⟨hused, hname, rfl⟩ |
        ⟨value, rest, hused, hvalue, hrest, rfl⟩
      · rw [hused]
        exact .stop hname
      · rw [hused]
        exact .var hvalue (ih hrest)

/-- **A text that is filled in with values is what the values generate**, if every variable that is
filled in has its value and every other one has none. -/
theorem renderFrom_of_filled (h : Filled Satisfies optional tokens values s)
    (hnodup : (Token.names tokens).Nodup) (hvalue : ∀ v ∈ values, v.2 ≠ "")
    (hparams : ∀ name ∈ Token.names tokens, params name = values.lookup name) :
    renderFrom optional params false tokens = .ok s := by
  induction h with
  | nil => rfl
  | text h ih => exact renderFrom_text_eq_ok_iff.2 ⟨_, ih hnodup hvalue hparams, rfl⟩
  | @var separator constraint name value tokens values s haccept h ih =>
    obtain ⟨hname, hnodup⟩ := List.nodup_cons.1 hnodup
    obtain ⟨hne, hvalue⟩ := List.forall_mem_cons.1 hvalue
    obtain ⟨hparam, hparams⟩ := List.forall_mem_cons.1 hparams
    have hused : usedValue optional params name = some value := by
      rw [usedValue, hparam, List.lookup_cons_self, Option.filter_some, if_pos]
      simp [hne]
    -- The later variables have other names, so the first value is none of theirs.
    have hrest : renderFrom optional params false tokens = .ok s := by
      refine ih hnodup hvalue fun n hn => ?_
      rw [hparams n hn, List.lookup_cons, beq_eq_false_iff_ne.2]
      rintro rfl
      exact hname hn
    exact renderFrom_var_eq_ok_iff.2 (.inr ⟨value, s, hused, haccept, hrest, rfl⟩)
  | @stop separator constraint name tokens hname =>
    have hused : usedValue optional params name = none := by
      rw [usedValue, hparams name List.mem_cons_self]
      rfl
    exact renderFrom_var_eq_ok_iff.2 (.inl ⟨hused, hname, rfl⟩)

end RoutePatterns
