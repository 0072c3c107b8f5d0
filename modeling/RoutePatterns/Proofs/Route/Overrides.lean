import RoutePatterns.Proofs.Route.Layout

/-!
# Generation and matching with overrides

An override is checked alone, but it is matched in the middle of the regular expression of its route,
and the two may disagree (`generated_but_not_matched`). They agree on the overrides that can stand in a
group (`IsFragment`) and that match there what they match alone (`Portable`): if the names of the groups
are names of groups and no two are equal (`Embeddable`), the route has a regular expression, and it
matches what is generated (`matched_of_generate`).
-/

namespace RoutePatterns

open Regex

/-! ### Overrides that can be embedded -/

/-- A regular expression that is still one as a group. -/
def IsFragment (constraint : String) : Prop :=
  (exprOfText? constraint).isSome ∧ (exprOfText? ("(?:" ++ constraint ++ ")")).isSome

instance (constraint : String) : Decidable (IsFragment constraint) :=
  inferInstanceAs (Decidable (_ ∧ _))

/-- The groups that a variable has in the regular expression: its own, and those of its override. -/
def groupsOf (overrides : Lookup) (name : String) : List String :=
  name :: ((overrides name).map fun constraint => (Token.constraintExpr constraint).groupNames).getD []

/-- The overrides of some variables can be put into one regular expression. -/
structure Embeddable (overrides : Lookup) (names : List String) : Prop where
  isGroupName : ∀ name ∈ names, IsGroupName name
  isFragment : ∀ name ∈ names, ∀ constraint ∈ overrides name, IsFragment constraint
  nodup : (names.flatMap (groupsOf overrides)).Nodup

/-- The overrides of some variables match as a part of any text what they match alone. -/
def AllPortable (overrides : Lookup) (names : List String) : Prop :=
  ∀ name ∈ names, ∀ constraint ∈ overrides name, Portable constraint

variable {part : Part} {overrides : Lookup} {optional : List String} {pattern : String}
  {p : CompiledPart} {token : Token} {tokens : List Token} {before run : List Token}

namespace Token

theorem IsConstrained.readable (h : token.IsConstrained part overrides)
    (hname : ∀ name ∈ token.name?, IsGroupName name)
    (hfragment : ∀ name ∈ token.name?, ∀ constraint ∈ overrides name, IsFragment constraint) :
    token.Readable := by
  cases token with
  | text content => trivial
  | var separator constraint name =>
    obtain ⟨next, hnext, rfl⟩ := h
    cases hoverride : overrides name with
    | none =>
      have hdefault : (Token.var separator (defaultConstraint part.separator next) name).IsDefault
        part := ⟨next, rfl, hnext⟩
      exact hdefault.readable hname
    | some constraint => exact ⟨hname name rfl, hfragment name rfl constraint hoverride⟩

theorem IsConstrained.groupNames (h : token.IsConstrained part overrides) :
    token.groupNames = token.name?.toList.flatMap (groupsOf overrides) := by
  cases token with
  | text content => rfl
  | var separator constraint name =>
    obtain ⟨next, hnext, rfl⟩ := h
    rw [name?, Option.toList_some, List.flatMap_singleton, groupsOf]
    cases hoverride : overrides name with
    | none =>
      have hdefault : (Token.var separator (defaultConstraint part.separator next) name).IsDefault
        part := ⟨next, rfl, hnext⟩
      exact hdefault.groupNames
    | some constraint =>
      rw [Option.getD_some, Token.groupNames, Option.map_some, Option.getD_some, constraintExpr]
      cases exprOfText? constraint <;> rfl

theorem IsConstrained.portable {separator : Option Char} {constraint name : String}
    (h : (Token.var separator constraint name).IsConstrained part overrides)
    (hportable : ∀ constraint ∈ overrides name, Portable constraint) : Portable constraint := by
  obtain ⟨next, hnext, rfl⟩ := h
  cases hoverride : overrides name with
  | none => exact portable_defaultConstraint hnext
  | some constraint => exact hportable constraint hoverride

end Token

theorem flatMap_groupNames (h : ∀ token ∈ tokens, token.IsConstrained part overrides) :
    tokens.flatMap Token.groupNames = (Token.names tokens).flatMap (groupsOf overrides) := by
  induction tokens with
  | nil => rfl
  | cons token tokens ih =>
    rw [List.flatMap_cons, (h token List.mem_cons_self).groupNames,
      ih fun t ht => h t (List.mem_cons_of_mem _ ht)]
    cases token with
    | text content => rfl
    | var separator constraint name => simp [Token.name?, Token.names]

namespace Embeddable

theorem readable (h : Embeddable overrides (Token.names tokens))
    (htokens : ∀ token ∈ tokens, token.IsConstrained part overrides) :
    ∀ token ∈ tokens, token.Readable := by
  intro token htoken
  have hmem : ∀ name ∈ token.name?, name ∈ Token.names tokens := fun name hname =>
    List.mem_filterMap.2 ⟨token, htoken, hname⟩
  exact (htokens token htoken).readable (fun name hname => h.isGroupName name (hmem name hname))
    fun name hname => h.isFragment name (hmem name hname)

/-- The regular expression of a host or path is one. -/
theorem exprOfText? (h : Embeddable overrides (Token.names (before ++ run)))
    (hlayout : Layout p before run)
    (htokens : ∀ token ∈ before ++ run, token.IsConstrained part overrides) :
    Regex.exprOfText? p.regex = some (anchoredExpr (bodyExprs before run)) :=
  hlayout.exprOfText? (h.readable htokens) (by rw [flatMap_groupNames htokens]; exact h.nodup)

end Embeddable

theorem AllPortable.admits (h : AllPortable overrides (Token.names tokens))
    (htokens : ∀ token ∈ tokens, token.IsConstrained part overrides)
    (hreadable : ∀ token ∈ tokens, token.Readable) : ∀ token ∈ tokens, token.Admits Satisfies := by
  intro token htoken
  refine Token.admits_satisfies (hreadable token htoken) ?_
  rintro separator constraint name rfl
  exact (htokens _ htoken).portable (h name (List.mem_filterMap.2 ⟨_, htoken, rfl⟩))

/-! ### Routes -/

theorem found_of_compilePart (h : compilePart part overrides optional pattern = .ok p)
    (hembeddable : Embeddable overrides p.names) :
    ∃ e, exprOfText? p.regex = some e ∧ (AllPortable overrides p.names → ∀ params s,
      render p.tokens p.optionalVariables params = .ok s → e.found s.toList = true) := by
  obtain ⟨before, run, hlayout⟩ := exists_layout h
  have htokens : ∀ token ∈ before ++ run, token.IsConstrained part overrides := by
    obtain ⟨-, rfl⟩ := compilePart_eq_ok h
    exact hlayout.tokens ▸ isConstrained_of_mem_tokens
  rw [hlayout.names] at hembeddable ⊢
  refine ⟨_, hembeddable.exprOfText? hlayout htokens, fun hportable params s hrender => ?_⟩
  exact found_of_matched hlayout.not_mem_names hlayout.isOneOf
    (hportable.admits htokens (hembeddable.readable htokens))
    (.filled (hlayout.filled_of_render hrender))

/-- **What is generated is matched**, if the overrides can be embedded and match in any text what they
match alone. -/
theorem matched_of_generate {q : Pattern} {r : Route} (hcompile : compile q = .ok r) :
    (Embeddable q.overrides.get? r.pathVariables → ∃ e, exprOfText? r.pathRegex = some e ∧
        (AllPortable q.overrides.get? r.pathVariables → ∀ params s,
          r.generatePath params = .ok s → e.found s.toList = true)) ∧
      (q.host ≠ "" → Embeddable q.overrides.get? r.hostVariables →
        ∃ e, exprOfText? r.hostRegex = some e ∧
          (AllPortable q.overrides.get? r.hostVariables → ∀ params s,
            r.generateHost params = .ok s → e.found s.toList = true)) := by
  obtain ⟨host, path, hhost, hpath, rfl⟩ := compile_eq_ok hcompile
  refine ⟨found_of_compilePart hpath, fun hne hembeddable => ?_⟩
  rw [compileHost, if_neg (by simpa using hne)] at hhost
  obtain ⟨before, run, hlayout⟩ := exists_layout hhost
  obtain rfl := run_eq_nil hhost hlayout
  have hoptional : host.optionalVariables = [] := hlayout.optional
  have hfound := found_of_compilePart hhost hembeddable
  rwa [hoptional] at hfound

/-- Orders of the customers of a tenant; numbers and lower case names only. -/
def ordersPattern : Pattern where
  host := "{tenant}.example.org"
  path := "/orders/{id}/edit"
  overrides := .ofList [("id", "\\d+"), ("tenant", "[a-z]+(?:-[a-z]+)*")]

/-- What `ordersPattern` is compiled to. -/
def ordersRoute : Route where
  staticPrefix := "/orders"
  pathRegex := "^/orders/(?<id>\\d+)/edit$"
  pathTokens := [.text "/orders", .var (some '/') "\\d+" "id", .text "/edit"]
  pathVariables := ["id"]
  optionalVariables := []
  hostRegex := "^(?<tenant>[a-z]+(?:-[a-z]+)*)\\.example\\.org$"
  hostTokens := [.var none "[a-z]+(?:-[a-z]+)*" "tenant", .text ".example.org"]
  hostVariables := ["tenant"]
  allVariables := ["tenant", "id"]

theorem matched_of_generate_orders :
    compile ordersPattern = .ok ordersRoute ∧
      (∃ e, exprOfText? ordersRoute.pathRegex = some e ∧ e.found "/orders/5/edit".toList = true) ∧
      ∃ e, exprOfText? ordersRoute.hostRegex = some e ∧
        e.found "my-shop.example.org".toList = true := by
  have hcompile : compile ordersPattern = .ok ordersRoute := by rfl
  have hmatched := matched_of_generate hcompile
  have hportable : ∀ name ∈ ["id", "tenant"], ∀ constraint ∈ ordersPattern.overrides.get? name,
      Portable constraint := by
    have hfree : ∀ name ∈ ["id", "tenant"], ∀ constraint ∈ ordersPattern.overrides.get? name,
        (Token.constraintExpr constraint).lookFree = true := by decide +kernel
    exact fun name hname constraint hconstraint =>
      portable_of_lookFree (hfree name hname constraint hconstraint)
  refine ⟨hcompile, ?_, ?_⟩
  · obtain ⟨e, he, hfound⟩ := hmatched.1 ⟨by decide, by decide +kernel, by decide +kernel⟩
    refine ⟨e, he, hfound (fun name hname => hportable name ?_)
      (Bindings.ofList [("id", "5")]).get? _ (by decide +kernel)⟩
    exact List.mem_cons.2 (.inl (List.mem_singleton.1 hname))
  · obtain ⟨e, he, hfound⟩ := hmatched.2 (by decide) ⟨by decide, by decide +kernel, by decide +kernel⟩
    exact ⟨e, he, hfound (fun name hname => hportable name (List.mem_cons_of_mem _ hname))
      (Bindings.ofList [("tenant", "my-shop")]).get? _ (by decide +kernel)⟩

/-- A path that is generated although no regular expression of the route matches it, while all overrides
are regular expressions. -/
def GeneratedOnly (q : Pattern) (params : Bindings) (s : String) : Prop :=
  ∃ r, compile q = .ok r ∧ (∀ entry ∈ q.overrides.entries, (exprOfText? entry.2).isSome) ∧
    r.generatePath params.get? = .ok s ∧
    ¬ ∃ e, exprOfText? r.pathRegex = some e ∧ e.found s.toList = true

theorem generatedOnly_of_eq {q : Pattern} {params : Bindings} {s : String} (r : Route)
    (hcompile : compile q = .ok r)
    (hoverrides : ∀ entry ∈ q.overrides.entries, (exprOfText? entry.2).isSome)
    (hgenerate : r.generatePath params.get? = .ok s)
    (hfound : (exprOfText? r.pathRegex).any (fun e => e.found s.toList) = false) :
    GeneratedOnly q params s := by
  refine ⟨r, hcompile, hoverrides, hgenerate, ?_⟩
  rintro ⟨e, he, hs⟩
  rw [he, Option.any_some, hs] at hfound
  cases hfound

/-- An override with a condition on its position, one that repeats the name of a group, one that is no
fragment, and a name that is no name of a group. -/
theorem generated_but_not_matched :
    GeneratedOnly { path := "/{id}/edit", overrides := .ofList [("id", "^\\d+$")] }
        (.ofList [("id", "5")]) "/5/edit" ∧
      GeneratedOnly { path := "/{id}", overrides := .ofList [("id", "(?<id>\\d+)")] }
        (.ofList [("id", "5")]) "/5" ∧
      GeneratedOnly { path := "/{id?}", overrides := .ofList [("id", "(?x)\\d+#")] } .empty "/" ∧
      GeneratedOnly { path := "/{a‿b}" } (.ofList [("a‿b", "5")]) "/5" := by
  have hofCompile {q : Pattern} {params : Bindings} {s : String} :=
    @generatedOnly_of_eq q params s ((compile q).toOption.getD default)
  refine ⟨hofCompile ?_ ?_ ?_ ?_, hofCompile ?_ ?_ ?_ ?_, hofCompile ?_ ?_ ?_ ?_,
    hofCompile ?_ ?_ ?_ ?_⟩
  all_goals decide +kernel

end RoutePatterns
