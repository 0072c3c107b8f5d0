import RoutePatterns.Proofs.Regex.Wrapped
import RoutePatterns.Proofs.Route.Overrides

/-!
# Enforced constraints

The value of a variable is checked against the expression `^(?:c)$`, into which the constraint `c` is put
as it stands. What this expression says about `c` alone is not obvious: `a)|(?:b` is no regular expression,
but accepts values, and `(?x)a#` is one, but accepts none, because its comment takes the parenthesis with it
(`constraint_not_enforced`).

A constraint that is a regular expression as it stands and in a group of its own (`IsFragment`) accepts the
values that it matches from their beginning to their end (`satisfies_iff_matchesWhole`). Any other
constraint has no expression for whole values (`isSome_constraintRegex?_iff`), except for one that closes the
group around it (`ClosesGroup`), which none that is a regular expression does. What this means for
generation is `constraint_enforced`.
-/

namespace RoutePatterns

open Regex

/-! ### Constraints between the ends of the text -/

/-- A text that denotes an expression is neither nested too deeply nor too large for the engine. -/
def WithinLimits (s : String) : Prop :=
  ∀ e ∈ Syntax.read? s, e.depth .none ≤ maxDepth ∧ ∀ x ∈ e.resolve?, x.size ≤ maxSize

instance (s : String) : Decidable (WithinLimits s) :=
  inferInstanceAs (Decidable (∀ e ∈ Syntax.read? s, _ ∧ ∀ x ∈ e.resolve?, _))

/-- The constraint closes a group that it has not opened, outside of classes, as `a)|(?:b` does: this is
the group that is put around it. -/
def ClosesGroup (constraint : String) : Prop := Reader.ClosesUnopened {} constraint.toList

/-- The constraint is an expression that matches a value from its beginning to its end. -/
def MatchesWhole (constraint value : String) : Prop :=
  ∃ x, exprOfText? constraint = some x ∧ x.Match value.toList 0 value.toList.length

/-- The variable that an error is about. -/
def GenerateError.name : GenerateError → String
  | missing name | mismatch name _ _ | invalidConstraint name _ => name

variable {s constraint name value : String}

theorem isSome_ofText?_iff : (ofText? s).isSome ↔ (exprOfText? s).isSome ∧ WithinLimits s := by
  rw [ofText?, exprOfText?, WithinLimits]
  cases Syntax.read? s with
  | none => simp
  | some e =>
    by_cases hdepth : e.depth .none ≤ maxDepth
    · cases hresolve : e.resolve? with
      | none => simp [hresolve]
      | some x => by_cases hsize : x.size ≤ maxSize <;> simp [hdepth, hresolve, hsize, guard]
    · simp [hdepth, guard]

/-- A constraint that is a regular expression closes its own groups only. -/
theorem not_closesGroup_of_exprOfText? (h : (exprOfText? constraint).isSome) :
    ¬ ClosesGroup constraint := by
  obtain ⟨e, he, -⟩ := exists_read?_of_exprOfText? h
  exact (Reader.finishes_of_run he).not_closesUnopened

/-- A group around a constraint is read as the group of what the constraint is. -/
theorem read?_plainGroup {e : Syntax} (he : Syntax.read? constraint = some e)
    (hgroup : Reader.Groupable constraint.toList) :
    Syntax.read? ("(?:" ++ constraint ++ ")") = some (.group (.plain []) e) := by
  obtain ⟨names, hleads⟩ := Reader.leads_plainGroup (r := {}) ⟨rfl, rfl⟩ he hgroup
    fun n _ => List.not_mem_nil
  have htext : ("(?:" ++ constraint ++ ")").toList =
      ['(', '?', ':'] ++ constraint.toList ++ [')'] ++ [] := by
    simp
  rw [Syntax.read?, htext]
  exact (hleads []).run (Reader.finish_eq_some_iff.2 ⟨rfl, rfl, rfl⟩)

/-- What stands between the ends of the text means something if the whole does. -/
theorem isSome_resolveWith?_of_anchoredParts {e : Syntax}
    (h : (Reader.anchoredParts [e]).resolve?.isSome) : (e.resolveWith? {}).isSome := by
  cases hwith : e.resolveWith? {} with
  | none =>
    simp [Reader.anchoredParts, Syntax.ofItems, Syntax.resolve?, Syntax.resolveWith?, hwith] at h
  | some r => rfl

/-- **An expression between `^(?:` and `)$` is one without them**, unless it closes the group. -/
theorem isFragment_of_anchored (h : (exprOfText? (anchored constraint)).isSome)
    (hcloses : ¬ ClosesGroup constraint) : IsFragment constraint := by
  obtain ⟨x, hx⟩ := Option.isSome_iff_exists.1 h
  obtain ⟨e', he', hresolve⟩ := Option.bind_eq_some_iff.1 hx
  have htext : (anchored constraint).toList =
      '^' :: (['(', '?', ':'] ++ (constraint.toList ++ seam)) := by
    simp [anchored, seam]
  have hrun : (Reader.run {} ('^' :: (['(', '?', ':'] ++ (constraint.toList ++ seam)))).isSome := by
    rw [← htext]
    exact Option.isSome_of_eq_some he'
  -- The constraint can be read alone and as a group; it remains that what is read means something.
  obtain ⟨hread, hgroup⟩ := (Reader.of_run_wrapped hrun).resolve_left hcloses
  obtain ⟨e, he⟩ := Option.isSome_iff_exists.1 hread
  obtain rfl := Option.some.inj (he'.symm.trans (read?_anchored he hgroup))
  have hmeans : ((Syntax.group (.plain []) e).resolveWith? {}).isSome :=
    isSome_resolveWith?_of_anchoredParts (Option.isSome_of_eq_some hresolve)
  have halone : (e.resolveWith? {}).isSome := by
    rwa [Syntax.resolveWith?, Option.isSome_map] at hmeans
  constructor
  · have hexpr : exprOfText? constraint = (e.resolveWith? {}).map Prod.fst := by
      rw [exprOfText?, show Syntax.read? constraint = some e from he]
      rfl
    rwa [hexpr, Option.isSome_map]
  · rw [exprOfText?, read?_plainGroup he hgroup]
    simpa [Syntax.resolve?] using hmeans

/-- **A constraint accepts the values that it matches from their beginning to their end.** -/
theorem satisfies_iff_matchesWhole (hfragment : IsFragment constraint)
    (hlimits : WithinLimits (anchored constraint)) :
    Satisfies constraint value ↔ MatchesWhole constraint value := by
  obtain ⟨halone, hgroup⟩ := hfragment
  obtain ⟨x, hx⟩ := Option.isSome_iff_exists.1 halone
  constructor
  · intro h
    exact ⟨x, hx, match_of_satisfies hx hgroup h⟩
  · rintro ⟨x', hx', hmatch⟩
    have hregex : (constraintRegex? constraint).isSome :=
      isSome_ofText?_iff.2 ⟨Option.isSome_of_eq_some (exprOfText?_anchored hx hgroup), hlimits⟩
    exact satisfies_of_match hx' hgroup hregex hmatch

/-- **Which constraints have an expression for whole values**: those that are one as they stand and in a
group, and those that close the group and still leave an expression. -/
theorem isSome_constraintRegex?_iff :
    (constraintRegex? constraint).isSome ↔
      WithinLimits (anchored constraint) ∧
        (IsFragment constraint ∨
          ClosesGroup constraint ∧ (exprOfText? (anchored constraint)).isSome) := by
  rw [constraintRegex?, isSome_ofText?_iff, and_comm, and_congr_right_iff]
  intro _
  constructor
  · intro hanchored
    by_cases hcloses : ClosesGroup constraint
    · exact .inr ⟨hcloses, hanchored⟩
    · exact .inl (isFragment_of_anchored hanchored hcloses)
  · rintro (⟨halone, hgroup⟩ | ⟨-, hanchored⟩)
    · obtain ⟨x, hx⟩ := Option.isSome_iff_exists.1 halone
      exact Option.isSome_of_eq_some (exprOfText?_anchored hx hgroup)
    · exact hanchored

/-! ### The errors of generation -/

theorem checkConstraint_eq_invalid_iff :
    checkConstraint name constraint value = .error (.invalidConstraint name constraint) ↔
      constraintRegex? constraint = none := by
  rw [checkConstraint]
  cases constraintRegex? constraint with
  | none => simp [checkWith]
  | some r => cases h : r.isMatch value <;> simp [checkWith, h]

theorem checkConstraint_eq_mismatch_iff :
    checkConstraint name constraint value = .error (.mismatch name value constraint) ↔
      (constraintRegex? constraint).isSome ∧ ¬ Satisfies constraint value := by
  rw [checkConstraint, Satisfies]
  cases constraintRegex? constraint with
  | none => simp [checkWith]
  | some r => cases h : r.isMatch value <;> simp [checkWith, h]

theorem name_of_checkConstraint {e : GenerateError}
    (h : checkConstraint name constraint value = .error e) : e.name = name := by
  rw [checkConstraint] at h
  cases hregex : constraintRegex? constraint with
  | none =>
    simp only [hregex, checkWith] at h
    exact (Except.error.inj h) ▸ rfl
  | some r =>
    cases hmatch : r.isMatch value with
    | true => simp [hregex, checkWith, hmatch] at h
    | false =>
      simp only [hregex, checkWith, hmatch] at h
      exact (Except.error.inj h) ▸ rfl

variable {optional : List String} {params : Lookup} {tokens before after : List Token}
  {separator : Option Char} {first : Bool}

/-- **Every error is about a variable of the tokens.** -/
theorem name_mem_of_renderFrom {e : GenerateError}
    (h : renderFrom optional params first tokens = .error e) : e.name ∈ Token.names tokens := by
  induction tokens generalizing first with
  | nil => cases h
  | cons token tokens ih =>
    cases token with
    | text content =>
      rw [renderFrom_text] at h
      cases hrest : renderFrom optional params false tokens with
      | ok rest => rw [hrest] at h; cases h
      | error e' =>
        rw [hrest] at h
        obtain rfl := Except.error.inj h
        exact ih hrest
    | var separator constraint name =>
      cases hused : usedValue optional params name with
      | none =>
        rw [renderFrom_var_of_none hused] at h
        split at h
        · cases h
        · exact Except.error.inj h ▸ List.mem_cons_self
      | some value =>
        rw [renderFrom_var_of_some hused] at h
        cases hcheck : checkConstraint name constraint value with
        | error e' =>
          rw [hcheck] at h
          obtain rfl := Except.error.inj h
          exact name_of_checkConstraint hcheck ▸ List.mem_cons_self
        | ok u =>
          cases hrest : renderFrom optional params false tokens with
          | ok rest => rw [hcheck, hrest] at h; cases h
          | error e' =>
            rw [hcheck, hrest] at h
            obtain rfl := Except.error.inj h
            exact List.mem_cons_of_mem _ (ih hrest)

/-- When all variables of some tokens have a value that is accepted, the text of the tokens after them
follows. -/
theorem renderFrom_append (hgiven : ∀ n ∈ Token.names before, (usedValue optional params n).isSome)
    (hbefore : renderFrom optional params first before = .ok s) :
    renderFrom optional params first (before ++ after) =
      (renderFrom optional params (first && before.isEmpty) after).map (s ++ ·) := by
  induction before generalizing first s with
  | nil =>
    obtain rfl := Except.ok.inj hbefore
    rw [List.nil_append, List.isEmpty_nil, Bool.and_true]
    cases renderFrom optional params first after <;> simp [Except.map]
  | cons token before ih =>
    rw [List.cons_append, List.isEmpty_cons, Bool.and_false]
    cases token with
    | text content =>
      obtain ⟨rest, hrest, rfl⟩ := renderFrom_text_eq_ok_iff.1 hbefore
      rw [renderFrom_text, ih hgiven hrest, Bool.false_and]
      cases renderFrom optional params false after <;> simp [Except.map, String.append_assoc]
    | var separator constraint name =>
      obtain ⟨hname, hgiven⟩ := List.forall_mem_cons.1 hgiven
      obtain ⟨value, hused⟩ := Option.isSome_iff_exists.1 hname
      -- A variable with a value does not end the text.
      rcases renderFrom_var_eq_ok_iff.1 hbefore with ⟨hnone, -⟩ | ⟨value', rest, hused', hvalue, hrest, rfl⟩
      · rw [hused] at hnone
        cases hnone
      · rw [renderFrom_var_of_some hused', checkConstraint_eq_ok_iff.2 hvalue, ih hgiven hrest,
          Bool.false_and]
        cases renderFrom optional params false after <;>
          simp [Except.map, Except.bind, String.append_assoc]

/-- Generation that has come to a required variable checks its value, and goes on after it. -/
theorem render_required (hgiven : ∀ n ∈ Token.names before, (usedValue optional params n).isSome)
    (hbefore : renderFrom optional params true before = .ok s) (hrequired : name ∉ optional)
    (hvalue : params name = some value) :
    render (before ++ .var separator constraint name :: after) optional params =
      (checkConstraint name constraint value).bind fun _ =>
        (renderFrom optional params false after).map (s ++ separatorText separator ++ value ++ ·) := by
  have hused : usedValue optional params name = some value := by
    rw [usedValue, hvalue, Option.filter_some]
    simp [hrequired]
  rw [render, renderFrom_append hgiven hbefore, renderFrom_var_of_some hused]
  cases checkConstraint name constraint value with
  | error e => rfl
  | ok u =>
    cases renderFrom optional params false after <;>
      simp [Except.map, Except.bind, String.append_assoc]

/-! ### Constraints are enforced -/

/-- **A constraint is enforced.** Let generation come to a required variable with a value. If the constraint
is a regular expression as it stands and as a group, and within the limits, generation goes on if it matches
the value from its beginning to its end, and reports the value if it does not. Any other constraint is
reported as invalid, unless it closes the group around it, which no regular expression does, and the whole is
one all the same. -/
theorem constraint_enforced
    (hgiven : ∀ n ∈ Token.names before, (usedValue optional params n).isSome)
    (hbefore : renderFrom optional params true before = .ok s) (hrequired : name ∉ optional)
    (hvalue : params name = some value) (hafter : name ∉ Token.names after) :
    let result := render (before ++ .var separator constraint name :: after) optional params
    (result = .error (.invalidConstraint name constraint) ↔
        ¬ (WithinLimits (anchored constraint) ∧
          (IsFragment constraint ∨
            ClosesGroup constraint ∧ (exprOfText? (anchored constraint)).isSome))) ∧
      ((exprOfText? constraint).isSome → ¬ ClosesGroup constraint) ∧
      (IsFragment constraint → WithinLimits (anchored constraint) →
        (MatchesWhole constraint value →
            result = (renderFrom optional params false after).map
              (s ++ separatorText separator ++ value ++ ·)) ∧
          (¬ MatchesWhole constraint value → result = .error (.mismatch name value constraint))) := by
  intro result
  have hresult : result = (checkConstraint name constraint value).bind fun _ =>
      (renderFrom optional params false after).map (s ++ separatorText separator ++ value ++ ·) :=
    render_required hgiven hbefore hrequired hvalue
  refine ⟨?_, not_closesGroup_of_exprOfText?, fun hfragment hlimits => ⟨?_, ?_⟩⟩
  · have hinvalid : checkConstraint name constraint value = .error (.invalidConstraint name constraint) ↔
        ¬ (constraintRegex? constraint).isSome := by
      rw [checkConstraint_eq_invalid_iff]
      simp
    rw [← isSome_constraintRegex?_iff, ← hinvalid, hresult]
    cases hcheck : checkConstraint name constraint value with
    | error e => simp only [Except.bind, Except.error.injEq]
    | ok u =>
      -- An error after the variable is about another variable.
      have hrest (e : GenerateError) (he : renderFrom optional params false after = .error e) :
          e ≠ .invalidConstraint name constraint := by
        rintro rfl
        exact hafter (name_mem_of_renderFrom he)
      cases hcase : renderFrom optional params false after with
      | ok rest => simp [Except.bind, Except.map]
      | error e => simpa [Except.bind, Except.map] using hrest e hcase
  · intro hwhole
    rw [hresult, checkConstraint_eq_ok_iff.2 ((satisfies_iff_matchesWhole hfragment hlimits).2 hwhole)]
    rfl
  · intro hwhole
    have hregex : (constraintRegex? constraint).isSome :=
      isSome_constraintRegex?_iff.2 ⟨hlimits, .inl hfragment⟩
    have hrefused : ¬ Satisfies constraint value := by
      intro h
      exact hwhole ((satisfies_iff_matchesWhole hfragment hlimits).1 h)
    rw [hresult, checkConstraint_eq_mismatch_iff.2 ⟨hregex, hrefused⟩]
    rfl

/-- The number of an order is enforced: a number is accepted, and a word is not. -/
theorem constraint_enforced_orders :
    ordersRoute.generatePath (Bindings.ofList [("id", "5")]).get? = .ok "/orders/5/edit" ∧
      ordersRoute.generatePath (Bindings.ofList [("id", "five")]).get? =
        .error (.mismatch "id" "five" "\\d+") := by
  have hfragment : IsFragment "\\d+" := by decide +kernel
  have hlimits : WithinLimits (anchored "\\d+") := by decide +kernel
  have hwhole (value : String) : checkConstraint "id" "\\d+" value = .ok () ↔
      MatchesWhole "\\d+" value :=
    checkConstraint_eq_ok_iff.trans (satisfies_iff_matchesWhole hfragment hlimits)
  have henforced (value : String) := @constraint_enforced "/orders" "\\d+" "id" value []
    (Bindings.ofList [("id", value)]).get? [.text "/orders"] [.text "/edit"] (some '/')
    (fun _ hn => (by cases hn)) (by rfl) (by decide) (by rfl) (by decide)
  constructor
  · exact ((henforced "5").2.2 hfragment hlimits).1 ((hwhole "5").1 (by decide +kernel))
  · refine ((henforced "five").2.2 hfragment hlimits).2 ?_
    intro h
    exact absurd ((hwhole "five").2 h) (by decide +kernel)

/-- A constraint that is no regular expression and accepts a value all the same, and one that matches a
whole value and is reported as invalid. -/
theorem constraint_not_enforced :
    ((exprOfText? "a)|(?:b").isSome = false ∧
        (compile { path := "/{id}", overrides := .ofList [("id", "a)|(?:b")] }).toOption.map
          (·.generatePath (Bindings.ofList [("id", "a")]).get?) = some (.ok "/a")) ∧
      MatchesWhole "(?x)a#" "a" ∧
        (compile { path := "/{id}", overrides := .ofList [("id", "(?x)a#")] }).toOption.map
          (·.generatePath (Bindings.ofList [("id", "a")]).get?) =
            some (.error (.invalidConstraint "id" "(?x)a#")) := by
  refine ⟨⟨by decide +kernel, by decide +kernel⟩, ⟨?_, by decide +kernel⟩⟩
  exact ⟨.cat .empty (.one (.single 'a')), by decide +kernel, 0, rfl, rfl, by decide⟩

end RoutePatterns
