import RoutePatterns.Proofs.Route.Generated

/-!
# The values that generation uses

A path is generated from the values of the variables before the first one that is left out, and nothing
else. Two maps of values that agree on these, and that both leave out the same first variable (`SameUse`), give
the same path or the same error (`renderFrom_congr`), for any list of tokens, also one that no pattern is
compiled to.

If a map is extended by values for further variables, what is generated can only grow at its end
(`renderFrom_prefix`). This holds at the very beginning too, where the separator of a first variable is written
whether or not the variable is left out.
-/

namespace RoutePatterns

variable {optional : List String} {params params' : Lookup} {token : Token} {tokens : List Token}
  {separator : Option Char} {constraint name value s s' : String} {first : Bool} {r : Route}

/-- Generation uses the same values of two maps. -/
structure SameUse (optional : List String) (tokens : List Token) (params params' : Lookup) : Prop where
  /-- A variable before the first one that is left out has the same value in both maps, or no value in both. -/
  before : ∀ name ∈ Token.names (tokens.takeWhile fun token => !token.isLeftOut optional params),
    params' name = params name
  /-- The first variable that is left out is left out with the other map too. -/
  leftOut : ∀ token ∈ tokens.find? (Token.isLeftOut optional params), token.isLeftOut optional params' = true

/-- A map has all values of another one. -/
def Extends (params params' : Lookup) : Prop :=
  ∀ name value, params name = some value → params' name = some value

/-! ### Equal results -/

/-- A value that is used is used again. -/
theorem usedValue_usedValue (optional : List String) (params : Lookup) (name : String) :
    usedValue optional (usedValue optional params) name = usedValue optional params name := by
  rw [usedValue, usedValue, Option.filter_filter]
  simp only [Bool.and_self]

namespace SameUse

theorem tail (h : SameUse optional (token :: tokens) params params')
    (hkept : token.isLeftOut optional params = false) : SameUse optional tokens params params' := by
  obtain ⟨hbefore, hleftOut⟩ := h
  rw [List.takeWhile_cons_of_pos (by simp [hkept]), names_cons] at hbefore
  rw [List.find?_cons_of_neg (by simp [hkept])] at hleftOut
  exact ⟨fun name hname => hbefore name (List.mem_append_right _ hname), hleftOut⟩

/-- Of the first variable, the same value is used, or none. -/
theorem usedValue_eq (h : SameUse optional (.var separator constraint name :: tokens) params params') :
    usedValue optional params' name = usedValue optional params name := by
  cases hleftOut : (Token.var separator constraint name).isLeftOut optional params with
  | true =>
    have hleftOut' := h.leftOut _ (List.find?_cons_of_pos hleftOut)
    rw [(Token.isLeftOut_var_iff.1 hleftOut).2, (Token.isLeftOut_var_iff.1 hleftOut').2]
  | false =>
    have hbefore := h.before
    rw [List.takeWhile_cons_of_pos (by simp [hleftOut]), names_cons] at hbefore
    rw [usedValue, usedValue, hbefore name (List.mem_append_left _ List.mem_cons_self)]

/-- Two maps that agree on all variables are used in the same way. -/
theorem of_forall (h : ∀ name ∈ Token.names tokens, params' name = params name) :
    SameUse optional tokens params params' := by
  refine ⟨fun name hname => h name (((List.takeWhile_sublist _).filterMap _).subset hname), ?_⟩
  intro token htoken
  have hmem := List.mem_of_find?_eq_some htoken
  have hleftOut := List.find?_some htoken
  cases token with
  | text content => exact hleftOut
  | var separator constraint name =>
    rw [Token.isLeftOut, h name (List.mem_filterMap.2 ⟨_, hmem, rfl⟩)]
    exact hleftOut

/-- An empty value of an optional variable is used like none. -/
theorem of_usedValue (optional : List String) (tokens : List Token) (params : Lookup) :
    SameUse optional tokens params (usedValue optional params) where
  before name hname := by
    obtain ⟨token, htoken, hname⟩ := List.mem_filterMap.1 hname
    have hkept := List.mem_takeWhile_imp htoken
    cases token with
    | text content => cases hname
    | var separator constraint other =>
      obtain rfl := Option.some.inj hname
      exact usedValue_of_kept (by simpa using hkept)
  leftOut token htoken := by
    have hleftOut := List.find?_some htoken
    cases token with
    | text content => exact hleftOut
    | var separator constraint name =>
      obtain ⟨hname, hused⟩ := Token.isLeftOut_var_iff.1 hleftOut
      exact Token.isLeftOut_var_iff.2 ⟨hname, (usedValue_usedValue optional params name).trans hused⟩

end SameUse

/-- **Generation gives the same result if it uses the same values**, token by token. -/
theorem renderFrom_congr (h : SameUse optional tokens params params') :
    renderFrom optional params' first tokens = renderFrom optional params first tokens := by
  induction tokens generalizing first with
  | nil => rfl
  | cons token tokens ih =>
    cases token with
    | text content => rw [renderFrom_text, renderFrom_text, ih (h.tail rfl)]
    | var separator constraint name =>
      cases hused : usedValue optional params name with
      | none => rw [renderFrom_var_of_none hused, renderFrom_var_of_none (h.usedValue_eq.trans hused)]
      | some value =>
        -- The tokens that follow matter only here, where the variable is not left out.
        have hkept : (Token.var separator constraint name).isLeftOut optional params = false := by
          by_contra hleftOut
          rw [(Token.isLeftOut_var_iff.1 (by simpa using hleftOut)).2] at hused
          cases hused
        rw [renderFrom_var_of_some hused, renderFrom_var_of_some (h.usedValue_eq.trans hused),
          ih (h.tail hkept)]

/-! ### Longer results -/

/-- A value that is used is used from an extended map too. -/
theorem Extends.usedValue (h : Extends params params') (hused : usedValue optional params name = some value) :
    usedValue optional params' name = some value := by
  obtain ⟨hvalue, hne⟩ := Option.filter_eq_some_iff.1 hused
  exact Option.filter_eq_some_iff.2 ⟨h name value hvalue, hne⟩

/-- Bindings are extended by the binding of a name that has no value. -/
theorem Extends.insert {b : Bindings} (h : b.get? name = none) (text : String) :
    Extends b.get? (b.insert name text).get? := by
  intro other value hvalue
  have hne : name ≠ other := by
    rintro rfl
    rw [h] at hvalue
    cases hvalue
  rw [Bindings.get?_insert, if_neg hne, hvalue]

/-- **What is generated from more values goes on where the other text ends.** -/
theorem renderFrom_prefix (hextends : Extends params params')
    (h : renderFrom optional params first tokens = .ok s)
    (h' : renderFrom optional params' first tokens = .ok s') : s.toList <+: s'.toList := by
  induction tokens generalizing first s s' with
  | nil =>
    obtain rfl := Except.ok.inj h
    exact List.nil_prefix
  | cons token tokens ih =>
    cases token with
    | text content =>
      obtain ⟨rest, hrest, rfl⟩ := renderFrom_text_eq_ok_iff.1 h
      obtain ⟨rest', hrest', rfl⟩ := renderFrom_text_eq_ok_iff.1 h'
      rw [String.toList_append, String.toList_append]
      exact (List.prefix_append_right_inj _).2 (ih hrest hrest')
    | var separator constraint name =>
      rcases renderFrom_var_eq_ok_iff.1 h with ⟨-, -, rfl⟩ | ⟨value, rest, hused, -, hrest, rfl⟩
      · -- The text ends here, with nothing but the separator if the variable is the first token.
        rcases renderFrom_var_eq_ok_iff.1 h' with ⟨-, -, rfl⟩ | ⟨value, rest', -, -, -, rfl⟩
        · exact List.prefix_rfl
        · cases first with
          | false => exact List.nil_prefix
          | true =>
            rw [if_pos rfl, String.append_assoc, String.toList_append]
            exact List.prefix_append _ _
      · have hused' := hextends.usedValue hused
        rcases renderFrom_var_eq_ok_iff.1 h' with ⟨hnone, -, -⟩ | ⟨value', rest', hsome, -, hrest', rfl⟩
        · rw [hused'] at hnone
          cases hnone
        · obtain rfl : value = value' := Option.some.inj (hused'.symm.trans hsome)
          rw [String.toList_append (t := rest), String.toList_append (t := rest')]
          exact (List.prefix_append_right_inj _).2 (ih hrest hrest')

/-! ### Routes -/

/-- **Generation depends only on the values that it uses.** For every route, compiled or not, a path or an error
follows from the values of the variables before the first one that is left out; values for other names have no
effect, nor has an empty value of an optional variable. With further values, a path that is generated begins with
the one that was generated without them. -/
theorem generate_uses (r : Route) :
    (∀ params params', SameUse r.optionalVariables r.pathTokens params params' →
        r.generatePath params' = r.generatePath params) ∧
      (∀ params params', (∀ name ∈ Token.names r.pathTokens, params' name = params name) →
        r.generatePath params' = r.generatePath params) ∧
      (∀ params, r.generatePath (usedValue r.optionalVariables params) = r.generatePath params) ∧
      (∀ params params' s s', Extends params params' → r.generatePath params = .ok s →
        r.generatePath params' = .ok s' → s.toList <+: s'.toList) ∧
      ∀ params params', (∀ name ∈ Token.names r.hostTokens, params' name = params name) →
        r.generateHost params' = r.generateHost params :=
  ⟨fun _ _ h => renderFrom_congr h, fun _ _ h => renderFrom_congr (.of_forall h),
    fun params => renderFrom_congr (.of_usedValue r.optionalVariables r.pathTokens params),
    fun _ _ _ _ hextends h h' => renderFrom_prefix hextends h h',
    fun _ _ h => renderFrom_congr (.of_forall h)⟩

/-- A view that is empty is used like none, whatever other values there are; a view goes on where the path without it
ends. -/
theorem generate_uses_files :
    filesRoute.generatePath (Bindings.ofList [("name", "x"), ("ext", "gz"), ("view", ""), ("q", "1")]).get? =
        filesRoute.generatePath (Bindings.ofList [("name", "x"), ("ext", "gz")]).get? ∧
      "/files/x.gz".toList <+: "/files/x.gz/raw".toList := by
  obtain ⟨huse, -, -, hprefix, -⟩ := generate_uses filesRoute
  constructor
  · exact huse _ _ ⟨by decide +kernel, by decide +kernel⟩
  · have hextends : Extends (Bindings.ofList [("name", "x"), ("ext", "gz")]).get?
        ((Bindings.ofList [("name", "x"), ("ext", "gz")]).insert "view" "raw").get? :=
      .insert (by decide +kernel) "raw"
    exact hprefix _ _ _ _ hextends (by decide +kernel) (by decide +kernel)

end RoutePatterns
