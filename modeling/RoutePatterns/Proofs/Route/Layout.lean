import RoutePatterns.Proofs.Pattern.Scan
import RoutePatterns.Proofs.Pattern.Tokens
import RoutePatterns.Proofs.Pattern.Values

/-!
# The layout of a compiled host or path

The tokens of a compiled host or path are the required part followed by the optional run (`Layout`), and
its regular expression is assembled accordingly. Without overrides and with names of ASCII its tokens
are plain (`Plain`): all constraints are default ones and all names are names of groups. Then the
regular expression denotes `anchoredExpr (bodyExprs before run)` (`Layout.exprOfText?_of_plain`).
-/

namespace RoutePatterns

open Regex

/-- A compiled host or path: the tokens before the optional run, and those of the run. -/
structure Layout (p : CompiledPart) (before run : List Token) : Prop where
  tokens : p.tokens = before ++ run
  names : p.names = Token.names (before ++ run)
  regex : p.regex = assemble (before ++ run) (if run = [] then none else some before.length)
  optional : p.optionalVariables = Token.names run
  isOneOf : ∀ token ∈ run, token.isOneOf (Token.names run) = true
  nodup : (Token.names (before ++ run)).Nodup

namespace Layout

variable {p : CompiledPart} {before run : List Token}

theorem not_mem_names (h : Layout p before run) :
    ∀ name ∈ Token.names before, name ∉ Token.names run := by
  have hnodup := h.nodup
  rw [names_append] at hnodup
  exact fun name hbefore hrun => (List.nodup_append.1 hnodup).2.2 name hbefore name hrun rfl

/-- The expression that the regular expression of a compiled host or path denotes. -/
theorem exprOfText? (h : Layout p before run) (htokens : ∀ token ∈ before ++ run, token.Readable)
    (hnodup : ((before ++ run).flatMap Token.groupNames).Nodup) :
    exprOfText? p.regex = some (anchoredExpr (bodyExprs before run)) := by
  rw [h.regex]
  exact exprOfText?_assemble (fun t ht => Token.isSome_name?_of_isOneOf (h.isOneOf t ht)) htokens
    hnodup

/-- What is generated is filled into the tokens. -/
theorem filled_of_render (h : Layout p before run) {params : Lookup} {s : String}
    (hrender : render p.tokens p.optionalVariables params = .ok s) :
    Filled Satisfies (Token.names run) (detached (Token.names run) (before ++ run))
      (emitted (Token.names run) params (before ++ run)) s := by
  rw [h.tokens, h.optional, render, renderFrom_true] at hrender
  rw [← emitted_detached]
  exact filled_of_renderFrom hrender

end Layout

theorem optionalVariables_eq {before run : List Token} {names : List String} {regex : String} :
    CompiledPart.optionalVariables
      ⟨before ++ run, names, regex, if run = [] then none else some before.length⟩ = Token.names run := by
  rw [CompiledPart.optionalVariables]
  split
  · next hnone =>
    split at hnone
    · next hrun => rw [hrun]; rfl
    · cases hnone
  · next first hsome =>
    split at hsome
    · cases hsome
    · obtain rfl := Option.some.inj hsome
      rw [List.drop_left]

theorem isOneOf_of_names {optional : List String} {run : List Token}
    (hvar : ∀ token ∈ run, token.name?.isSome) (hnames : ∀ name ∈ Token.names run, name ∈ optional) :
    ∀ token ∈ run, token.isOneOf optional = true := by
  intro token htoken
  obtain ⟨name, hname⟩ := Option.isSome_iff_exists.1 (hvar token htoken)
  have hmem := hnames name (List.mem_filterMap.2 ⟨token, htoken, hname⟩)
  simpa [Token.isOneOf, hname] using hmem

theorem isOneOf_names_of_isOneOf {optional : List String} {run : List Token}
    (h : ∀ token ∈ run, token.isOneOf optional = true) :
    ∀ token ∈ run, token.isOneOf (Token.names run) = true :=
  isOneOf_of_names (fun token htoken => Token.isSome_name?_of_isOneOf (h token htoken))
    fun _ hname => hname

variable {part : Part} {overrides : Lookup} {optional : List String} {pattern : String}
  {p : CompiledPart}

theorem compilePart_eq_ok (h : compilePart part overrides optional pattern = .ok p) :
    variableNames pattern = .ok p.names ∧ p = ⟨tokens part overrides pattern,
      Token.names (tokens part overrides pattern),
      assemble (tokens part overrides pattern)
        (firstOptional optional (tokens part overrides pattern)),
      firstOptional optional (tokens part overrides pattern)⟩ := by
  rw [compilePart] at h
  cases hnames : variableNames pattern with
  | error e => rw [hnames] at h; cases h
  | ok names =>
    rw [hnames] at h
    obtain rfl := Except.ok.inj h
    -- The names are collected apart from the tokens.
    rw [names_tokens, (of_variableNames hnames).1]
    exact ⟨rfl, rfl⟩

theorem compilePart_of_variableNames {names : List String} (h : variableNames pattern = .ok names) :
    compilePart part overrides optional pattern = .ok ⟨tokens part overrides pattern, names,
      assemble (tokens part overrides pattern)
        (firstOptional optional (tokens part overrides pattern)),
      firstOptional optional (tokens part overrides pattern)⟩ := by
  rw [compilePart, h]
  rfl

theorem compileWith_of_parts {host path : String} {p p' : CompiledPart}
    (hhost : compileHost overrides host = .ok p) (hpath : compilePath overrides path = .ok p') :
    compileWith host path overrides = .ok (Route.ofParts p p') := by
  rw [compileWith, hhost, hpath]
  rfl

theorem compileWith_eq_ok {host path : String} {r : Route}
    (h : compileWith host path overrides = .ok r) :
    ∃ p p', compileHost overrides host = .ok p ∧ compilePath overrides path = .ok p' ∧
      r = Route.ofParts p p' := by
  rw [compileWith] at h
  cases hhost : compileHost overrides host with
  | error e => rw [hhost] at h; cases h
  | ok p =>
    cases hpath : compilePath overrides path with
    | error e => rw [hhost, hpath] at h; cases h
    | ok p' =>
      rw [hhost, hpath] at h
      exact ⟨p, p', rfl, rfl, (Except.ok.inj h).symm⟩

theorem compile_eq_ok {q : Pattern} {r : Route} (h : compile q = .ok r) :
    ∃ host path, compileHost q.overrides.get? q.host = .ok host ∧
      compilePath q.overrides.get? q.path = .ok path ∧ r = Route.ofParts host path :=
  compileWith_eq_ok h

theorem assemble_ne_empty (tokens : List Token) (first : Option Nat) : assemble tokens first ≠ "" := by
  intro h
  have htoList := congrArg String.toList h
  simp [assemble] at htoList

/-- An empty host compiles to nothing, and every other host is compiled as a text without optional names. -/
theorem compileHost_cases {host : String} (h : compileHost overrides host = .ok p) :
    (host = "" ∧ p = {}) ∨ (host ≠ "" ∧ compilePart .host overrides [] host = .ok p) := by
  rw [compileHost] at h
  split at h
  · next hempty => exact .inl ⟨by simpa using hempty, (Except.ok.inj h).symm⟩
  · next hne => exact .inr ⟨by simpa using hne, h⟩

/-- Only an empty host has no regular expression. -/
theorem regex_eq_empty_iff_of_compileHost {host : String} (h : compileHost overrides host = .ok p) :
    p.regex = "" ↔ host = "" := by
  rcases compileHost_cases h with ⟨rfl, rfl⟩ | ⟨hne, hpart⟩
  · exact iff_of_true rfl rfl
  · obtain ⟨-, rfl⟩ := compilePart_eq_ok hpart
    exact iff_of_false (assemble_ne_empty _ _) hne

/-- A route is for certain hosts only if its pattern has a host. -/
theorem hasHost_iff_of_compile {q : Pattern} {r : Route} (h : compile q = .ok r) :
    r.hasHost = true ↔ q.host ≠ "" := by
  obtain ⟨host, path, hhost, -, rfl⟩ := compile_eq_ok h
  have hregex : (Route.ofParts host path).hasHost = !host.regex.isEmpty := rfl
  rw [hregex, Ne, ← regex_eq_empty_iff_of_compileHost hhost]
  simp

/-- **Every text that compiles has a layout.** -/
theorem exists_layout (h : compilePart part overrides optional pattern = .ok p) :
    ∃ before run, Layout p before run := by
  obtain ⟨hcheck, rfl⟩ := compilePart_eq_ok h
  obtain ⟨before, run, htokens, hrun, -, hfirst⟩ :=
    exists_optionalRun optional (tokens part overrides pattern)
  have hnodup := (of_variableNames hcheck).2.1
  rw [htokens] at hnodup
  refine ⟨before, run, htokens, by rw [htokens], ?_, ?_, isOneOf_names_of_isOneOf hrun, hnodup⟩
  · rw [← htokens, hfirst]
  · rw [hfirst, htokens]
    exact optionalVariables_eq

/-- A host has no optional run. -/
theorem run_eq_nil {before run : List Token} (h : compilePart part overrides [] pattern = .ok p)
    (hlayout : Layout p before run) : run = [] := by
  obtain ⟨-, rfl⟩ := compilePart_eq_ok h
  have hnone : firstOptional [] (tokens part overrides pattern) = none := by
    have htake : (tokens part overrides pattern).reverse.takeWhile (Token.isOneOf []) = [] := by
      refine List.takeWhile_eq_nil_iff.2 fun hlt hone => ?_
      obtain ⟨_, _, _, _, hname⟩ := Token.isOneOf_iff.1 hone
      cases hname
    rw [firstOptional, htake]
    rfl
  have hoptional := hlayout.optional
  rw [CompiledPart.optionalVariables, hnone] at hoptional
  cases run with
  | nil => rfl
  | cons token run =>
    obtain ⟨_, _, _, rfl, _⟩ := Token.isOneOf_iff.1 (hlayout.isOneOf token List.mem_cons_self)
    cases hoptional

/-- Tokens with default constraints and names of groups. -/
structure Plain (part : Part) (tokens : List Token) : Prop where
  isDefault : ∀ token ∈ tokens, token.IsDefault part
  isGroupName : ∀ name ∈ Token.names tokens, IsGroupName name

namespace Plain

variable {tokens : List Token}

theorem readable (h : Plain part tokens) : ∀ token ∈ tokens, token.Readable := fun token htoken =>
  (h.isDefault token htoken).readable fun name hname =>
    h.isGroupName name (List.mem_filterMap.2 ⟨token, htoken, hname⟩)

theorem flatMap_groupNames (h : Plain part tokens) :
    tokens.flatMap Token.groupNames = Token.names tokens :=
  Token.flatMap_groupNames_of_isDefault h.isDefault

theorem admits (h : Plain part tokens) : ∀ token ∈ tokens, token.Admits Satisfies :=
  fun token htoken => (h.isDefault token htoken).admits (h.readable token htoken)

theorem reflects (h : Plain part tokens) : ∀ token ∈ tokens, token.Reflects Satisfies :=
  fun token htoken => (h.isDefault token htoken).reflects

theorem detached (h : Plain part tokens) (optional : List String) :
    Plain part (detached optional tokens) := by
  refine ⟨?_, names_detached optional tokens ▸ h.isGroupName⟩
  have hdefault := h.isDefault
  cases tokens with
  | nil => exact hdefault
  | cons token tokens =>
    cases token with
    | text content => exact hdefault
    | var separator constraint name =>
      rw [RoutePatterns.detached]
      split
      · obtain ⟨hvar, hdefault⟩ := List.forall_mem_cons.1 hdefault
        have hvar' : (Token.var none constraint name).IsDefault part := hvar
        exact List.forall_mem_cons.2 ⟨trivial, List.forall_mem_cons.2 ⟨hvar', hdefault⟩⟩
      · exact hdefault

/-- No value is empty. -/
theorem ne_empty (h : Plain part tokens) {optional : List String} {values : List (String × String)}
    {s : String} (hfilled : Filled Satisfies optional tokens values s) : ∀ v ∈ values, v.2 ≠ "" := by
  refine hfilled.ne_empty fun separator constraint name hmem value hvalue => ?_
  obtain ⟨next, rfl, hnext⟩ := h.isDefault _ hmem
  exact ((satisfies_defaultConstraint_iff hnext).1 hvalue).1

end Plain

theorem Layout.exprOfText?_of_plain {before run : List Token} (h : Layout p before run)
    (hplain : Plain part (before ++ run)) :
    Regex.exprOfText? p.regex = some (anchoredExpr (bodyExprs before run)) :=
  h.exprOfText? hplain.readable (by rw [hplain.flatMap_groupNames]; exact h.nodup)

/-- Without overrides, a text with names of ASCII has plain tokens. -/
theorem plain_of_compilePart (hnone : ∀ name, overrides name = none)
    (h : compilePart part overrides optional pattern = .ok p)
    (hascii : ∀ name ∈ p.names, ∀ c ∈ name.toList, Unicode.isAsciiWord c = true) :
    Plain part p.tokens := by
  obtain ⟨hcheck, rfl⟩ := compilePart_eq_ok h
  refine ⟨fun token htoken => (isConstrained_of_mem_tokens token htoken).isDefault hnone,
    fun name hname => ?_⟩
  have hslot := names_tokens part overrides pattern ▸ hname
  exact isGroupName_of_isAsciiWord (isSlotName_of_mem_slotNames hslot).1
    ((of_variableNames hcheck).2.2 name hslot) (hascii name hname)

end RoutePatterns
