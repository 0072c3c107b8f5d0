import Mathlib.Data.List.Forall2
import RoutePatterns.Proofs.Bindings
import RoutePatterns.Proofs.Pattern.Occurrence
import RoutePatterns.Proofs.Route.Printed

/-!
# Compilation under two look-ups

A look-up of overrides decides nothing but the constraints of the variables that it has overrides for.
To see this, a host and a path are compiled under two look-ups at once. The tokens are equal, up to the
constraints of the variables on which the look-ups differ (`forall₂_tokens`). All other fields of a route are
read off the names of its tokens and its texts (`Route.EqUpTo`), so the two runs have the same outcome up to
these constraints (`sameOutcome_compileWith`).

Look-ups that agree on the names of the placeholders that are written (`IsWritten`) give equal routes
(`compileWith_congr`). So it does not matter what kind of map the overrides come from.
-/

namespace RoutePatterns

/-! ### Two runs -/

/-- Two results that are the same error, or values that are related. -/
inductive SameOutcome {ε α β : Type} (R : α → β → Prop) : Except ε α → Except ε β → Prop
  | error (e : ε) : SameOutcome R (.error e) (.error e)
  | ok {a : α} {b : β} (h : R a b) : SameOutcome R (.ok a) (.ok b)

namespace SameOutcome

variable {ε α β γ δ : Type} {R : α → β → Prop} {S : γ → δ → Prop}

theorem refl {R : α → α → Prop} (hR : ∀ a, R a a) (x : Except ε α) : SameOutcome R x x := by
  cases x with
  | error e => exact .error e
  | ok a => exact .ok (hR a)

/-- Two runs stay together if their next steps do. -/
theorem bind {x : Except ε α} {y : Except ε β} {f : α → Except ε γ} {g : β → Except ε δ}
    (h : SameOutcome R x y) (hnext : ∀ a b, R a b → SameOutcome S (f a) (g b)) :
    SameOutcome S (x >>= f) (y >>= g) := by
  cases h with
  | error e => exact .error e
  | ok h => exact hnext _ _ h

end SameOutcome

/-! ### Tokens -/

/-- Two tokens are equal, up to the constraint of a variable on whose name the look-ups differ. -/
inductive Token.EqUpTo (overrides overrides' : Lookup) : Token → Token → Prop
  | text (content : String) : EqUpTo overrides overrides' (.text content) (.text content)
  | var {separator : Option Char} {constraint constraint' name : String}
      (h : overrides name = overrides' name → constraint = constraint') :
    EqUpTo overrides overrides' (.var separator constraint name) (.var separator constraint' name)

variable {overrides overrides' : Lookup} {token token' : Token} {tokens tokens' : List Token}
  {host path name : String} {optional : List String}

namespace Token.EqUpTo

theorem name?_eq (h : token.EqUpTo overrides overrides' token') : token.name? = token'.name? := by
  cases h <;> rfl

/-- Where the look-ups agree, nothing differs. -/
theorem eq_of_agree (h : token.EqUpTo overrides overrides' token')
    (hagree : ∀ name ∈ token.name?, overrides name = overrides' name) : token = token' := by
  cases h with
  | text content => rfl
  | var h => rw [h (hagree _ rfl)]

end Token.EqUpTo

theorem forall₂_tokensAfter (part : Part) (overrides overrides' : Lookup) (reversed : List Char)
    (pieces : List Piece) :
    List.Forall₂ (Token.EqUpTo overrides overrides') (tokensAfter part overrides reversed pieces)
      (tokensAfter part overrides' reversed pieces) := by
  have htext (reversed : List Char) : List.Forall₂ (Token.EqUpTo overrides overrides')
      (textToken reversed) (textToken reversed) := by
    rw [textToken]
    split
    · exact .nil
    · exact .cons (.text _) .nil
  induction pieces generalizing reversed with
  | nil => exact htext reversed
  | cons piece pieces ih =>
    cases piece with
    | char c => exact ih (c :: reversed)
    | slot name =>
      rw [tokensAfter, tokensAfter]
      -- What follows is looked at in the pieces, where no look-up has been used yet.
      have hvar : overrides name = overrides' name →
          constraintFor part overrides name pieces = constraintFor part overrides' name pieces := by
        intro h
        rw [constraintFor, constraintFor, h]
      exact List.rel_append (htext _) (.cons (.var hvar) (ih []))

/-- **Under two look-ups, a text has the same tokens up to the constraints on which the look-ups differ.** -/
theorem forall₂_tokens (part : Part) (overrides overrides' : Lookup) (pattern : String) :
    List.Forall₂ (Token.EqUpTo overrides overrides') (RoutePatterns.tokens part overrides pattern)
      (RoutePatterns.tokens part overrides' pattern) :=
  forall₂_tokensAfter part overrides overrides' [] _

theorem map_name?_eq (h : List.Forall₂ (Token.EqUpTo overrides overrides') tokens tokens') :
    tokens.map Token.name? = tokens'.map Token.name? := by
  induction h with
  | nil => rfl
  | cons hhead _ ih => rw [List.map_cons, List.map_cons, hhead.name?_eq, ih]

theorem eq_of_forall₂ (h : List.Forall₂ (Token.EqUpTo overrides overrides') tokens tokens')
    (hagree : ∀ name ∈ Token.names tokens, overrides name = overrides' name) : tokens = tokens' := by
  induction h with
  | nil => rfl
  | cons hhead _ ih =>
    rw [names_cons] at hagree
    have hhead' := hhead.eq_of_agree fun name hname =>
      hagree name (List.mem_append_left _ (Option.mem_toList.2 hname))
    rw [hhead', ih fun name hname => hagree name (List.mem_append_right _ hname)]

/-! ### What is read off the names of tokens -/

theorem names_congr (h : tokens.map Token.name? = tokens'.map Token.name?) :
    Token.names tokens = Token.names tokens' := by
  have hnames (tokens : List Token) : Token.names tokens = (tokens.map Token.name?).filterMap id := by
    rw [List.filterMap_map]
    rfl
  rw [hnames, hnames, h]

theorem firstOptional_congr (h : tokens.map Token.name? = tokens'.map Token.name?) :
    firstOptional optional tokens = firstOptional optional tokens' := by
  have hlength : tokens.length = tokens'.length := by
    simpa using congrArg List.length h
  have hrun (tokens : List Token) : (tokens.reverse.takeWhile (Token.isOneOf optional)).length =
      ((tokens.map Token.name?).reverse.takeWhile fun name? => name?.any optional.contains).length := by
    rw [← List.map_reverse, List.takeWhile_map, List.length_map]
    rfl
  rw [firstOptional, firstOptional, hrun, hrun, h, hlength]

/-! ### Hosts and paths -/

/-- Two compiled hosts or paths are equal, up to the constraints on which the look-ups differ. -/
structure CompiledPart.EqUpTo (overrides overrides' : Lookup) (p p' : CompiledPart) : Prop where
  tokens : List.Forall₂ (Token.EqUpTo overrides overrides') p.tokens p'.tokens
  names_eq : p.names = p'.names
  firstOptional_eq : p.firstOptional = p'.firstOptional

namespace CompiledPart.EqUpTo

variable {p p' : CompiledPart}

theorem optionalVariables_eq (h : p.EqUpTo overrides overrides' p') :
    p.optionalVariables = p'.optionalVariables := by
  rw [optionalVariables, optionalVariables, h.firstOptional_eq]
  cases p'.firstOptional with
  | none => rfl
  | some first => exact names_congr (map_name?_eq (List.forall₂_drop first h.tokens))

theorem staticPrefix_eq (h : p.EqUpTo overrides overrides' p') : p.staticPrefix = p'.staticPrefix := by
  have htokens := h.tokens
  rw [staticPrefix, staticPrefix]
  cases hp : p.tokens with
  | nil =>
    rw [hp, List.forall₂_nil_left_iff] at htokens
    rw [htokens]
  | cons token tokens =>
    rw [hp, List.forall₂_cons_left_iff] at htokens
    obtain ⟨token', tokens', hhead, -, hp'⟩ := htokens
    rw [hp']
    cases hhead <;> rfl

end CompiledPart.EqUpTo

theorem sameOutcome_compilePart (part : Part) (overrides overrides' : Lookup) (optional : List String)
    (pattern : String) :
    SameOutcome (CompiledPart.EqUpTo overrides overrides') (compilePart part overrides optional pattern)
      (compilePart part overrides' optional pattern) := by
  have htokens := forall₂_tokens part overrides overrides' pattern
  rw [compilePart, compilePart]
  refine SameOutcome.bind (SameOutcome.refl (fun _ => rfl) (variableNames pattern)) fun names names' heq => .ok ?_
  exact ⟨htokens, heq, firstOptional_congr (map_name?_eq htokens)⟩

theorem sameOutcome_compileHost (overrides overrides' : Lookup) (host : String) :
    SameOutcome (CompiledPart.EqUpTo overrides overrides') (compileHost overrides host)
      (compileHost overrides' host) := by
  rw [compileHost, compileHost]
  split
  · exact .ok ⟨.nil, rfl, rfl⟩
  · exact sameOutcome_compilePart .host overrides overrides' [] host

/-! ### Routes -/

/-- Two routes are equal, up to the constraints of the variables on whose names the look-ups differ, and up
to the regular expressions that these constraints are written into. -/
structure Route.EqUpTo (overrides overrides' : Lookup) (r r' : Route) : Prop where
  staticPrefix_eq : r.staticPrefix = r'.staticPrefix
  pathTokens : List.Forall₂ (Token.EqUpTo overrides overrides') r.pathTokens r'.pathTokens
  pathVariables_eq : r.pathVariables = r'.pathVariables
  optionalVariables_eq : r.optionalVariables = r'.optionalVariables
  hostTokens : List.Forall₂ (Token.EqUpTo overrides overrides') r.hostTokens r'.hostTokens
  hostVariables_eq : r.hostVariables = r'.hostVariables
  allVariables_eq : r.allVariables = r'.allVariables

theorem Route.eqUpTo_ofParts {host host' path path' : CompiledPart}
    (hhost : host.EqUpTo overrides overrides' host') (hpath : path.EqUpTo overrides overrides' path') :
    (Route.ofParts host path).EqUpTo overrides overrides' (Route.ofParts host' path') where
  staticPrefix_eq := hpath.staticPrefix_eq
  pathTokens := hpath.tokens
  pathVariables_eq := hpath.names_eq
  optionalVariables_eq := hpath.optionalVariables_eq
  hostTokens := hhost.tokens
  hostVariables_eq := hhost.names_eq
  allVariables_eq := by
    show mergeNames host.names path.names = mergeNames host'.names path'.names
    rw [hhost.names_eq, hpath.names_eq]

theorem sameOutcome_compileWith (host path : String) (overrides overrides' : Lookup) :
    SameOutcome (Route.EqUpTo overrides overrides') (compileWith host path overrides)
      (compileWith host path overrides') := by
  rw [compileWith, compileWith]
  refine (sameOutcome_compileHost overrides overrides' host).bind fun p p' hhost => ?_
  refine SameOutcome.bind (sameOutcome_compilePart .path overrides overrides' _ _) fun q q' hpath => ?_
  exact .ok (Route.eqUpTo_ofParts hhost hpath)

/-! ### Look-ups that agree -/

/-- A placeholder of the name is written in the host or in the path. -/
def IsWritten (host path name : String) : Prop :=
  (∃ before, OccursAt .host host.toList before name) ∨ ∃ before, OccursAt .path path.toList before name

theorem isWritten_iff : IsWritten host path name ↔
    name ∈ Part.host.names host.toList ∨ name ∈ Part.path.names path.toList := by
  rw [IsWritten, mem_names_iff, mem_names_iff]

instance (host path name : String) : Decidable (IsWritten host path name) :=
  decidable_of_iff _ isWritten_iff.symm

theorem compilePart_congr (part : Part) (optional : List String) {text : String}
    (hagree : ∀ name ∈ part.names text.toList, overrides name = overrides' name) :
    compilePart part overrides optional (part.unmarked text) =
      compilePart part overrides' optional (part.unmarked text) := by
  have htokens : RoutePatterns.tokens part overrides (part.unmarked text) =
      RoutePatterns.tokens part overrides' (part.unmarked text) := by
    refine eq_of_forall₂ (forall₂_tokens part overrides overrides' _) ?_
    rwa [names_tokens, Part.slotNames_unmarked]
  rw [compilePart, compilePart, htokens]

/-- **Look-ups that agree on the names that are written give the same route.** -/
theorem compileWith_congr (hagree : ∀ name, IsWritten host path name → overrides name = overrides' name) :
    compileWith host path overrides = compileWith host path overrides' := by
  have hhost : compileHost overrides host = compileHost overrides' host := by
    have hpart := compilePart_congr .host [] fun name hname => hagree name (isWritten_iff.2 (.inl hname))
    rw [compileHost, compileHost]
    split
    · rfl
    · exact hpart
  have hpath : compilePath overrides path = compilePath overrides' path :=
    compilePart_congr .path (optionalNames path) fun name hname => hagree name (isWritten_iff.2 (.inr hname))
  rw [compileWith, compileWith, hhost, hpath]

/-! ### Where overrides come from -/

/-- The look-up of a hash map. -/
def hashed (m : Std.HashMap String String) : Lookup := fun name => m[name]?

/-- A hash map and an ordered map with the same entries answer alike. -/
theorem hashed_eq_get? {m : Std.HashMap String String} {b : Bindings}
    (h : ∀ entry, entry ∈ m.toList ↔ entry ∈ b.entries) : hashed m = b.get? := by
  funext name
  refine Option.ext fun text => ?_
  rw [hashed, ← Std.HashMap.mem_toList_iff_getElem?_eq_some, h, Bindings.get?_eq_lookup,
    lookup_eq_some_iff_mem b.nodup_names]

/-- **Overrides change nothing but constraints.** Under two look-ups a host and a path are refused with the same
error, or compiled to routes that are equal up to the constraints on which the look-ups differ. Overrides of
names that are not written count for nothing, and neither does the kind of map that holds them. -/
theorem overrides_confined (host path : String) :
    (∀ overrides overrides', SameOutcome (Route.EqUpTo overrides overrides')
        (compileWith host path overrides) (compileWith host path overrides')) ∧
      (∀ overrides overrides' : Lookup,
        (∀ name, IsWritten host path name → overrides name = overrides' name) →
          compileWith host path overrides = compileWith host path overrides') ∧
      (∀ (b : Bindings) (name text : String), ¬ IsWritten host path name →
        compile ⟨host, path, b.insert name text⟩ = compile ⟨host, path, b⟩) ∧
      (∀ (m : Std.HashMap String String) (b : Bindings), (∀ entry, entry ∈ m.toList ↔ entry ∈ b.entries) →
        compileWith host path (hashed m) = compileWith host path b.get? ∧
          compileWith host path b.get? = compile ⟨host, path, b⟩) ∧
      compileWith host path (fun _ => none) = compile ⟨host, path, .empty⟩ := by
  refine ⟨sameOutcome_compileWith host path, fun _ _ hagree => compileWith_congr hagree, ?_, ?_, ?_⟩
  · intro b name text hname
    refine compileWith_congr fun other hother => ?_
    have hne : name ≠ other := by
      rintro rfl
      exact hname hother
    rw [Bindings.get?_insert, if_neg hne]
  · intro m b hentries
    exact ⟨by rw [hashed_eq_get? hentries], rfl⟩
  · exact compileWith_congr fun name _ => (Bindings.get?_empty name).symm

/-- The route of `wikiPattern` is the one without overrides, up to a constraint, and also the one under an override
that is no regular expression, of a name that is not written. -/
theorem overrides_confined_wiki :
    (∃ r, compileWith wikiPattern.host wikiPattern.path (fun _ => none) = .ok r ∧
        wikiRoute.EqUpTo wikiPattern.overrides.get? (fun _ => none) r) ∧
      ¬ IsWritten wikiPattern.host wikiPattern.path "page" ∧
      compile ⟨wikiPattern.host, wikiPattern.path, wikiPattern.overrides.insert "page" "("⟩ =
        .ok wikiRoute ∧
      compileWith wikiPattern.host wikiPattern.path
        (fun name => if name = "page" then some "(" else wikiPattern.overrides.get? name) = .ok wikiRoute ∧
      compileWith wikiPattern.host wikiPattern.path (hashed (Std.HashMap.ofList [("rev", "[0-9]+")])) =
        .ok wikiRoute := by
  obtain ⟨hsame, hagree, hunwritten, hmaps, -⟩ :=
    overrides_confined wikiPattern.host wikiPattern.path
  have hpage : ¬ IsWritten wikiPattern.host wikiPattern.path "page" := by decide +kernel
  refine ⟨?_, hpage, ?_, ?_, ?_⟩
  · have hnone := hsame wikiPattern.overrides.get? fun _ => none
    have hwiki : compileWith wikiPattern.host wikiPattern.path wikiPattern.overrides.get? =
        .ok wikiRoute := compile_wikiPattern
    rw [hwiki] at hnone
    obtain ⟨r, hr⟩ : ∃ r, compileWith wikiPattern.host wikiPattern.path (fun _ => none) = .ok r :=
      ⟨_, rfl⟩
    rw [hr] at hnone
    obtain _ | hequal := hnone
    exact ⟨r, hr, hequal⟩
  · rw [hunwritten _ _ _ hpage]
    exact compile_wikiPattern
  · refine (hagree _ wikiPattern.overrides.get? fun name hname => if_neg ?_).trans compile_wikiPattern
    rintro rfl
    exact hpage hname
  · obtain ⟨hhashed, hordered⟩ := hmaps (Std.HashMap.ofList [("rev", "[0-9]+")]) wikiPattern.overrides <| by
      rintro ⟨name, text⟩
      have hentries : wikiPattern.overrides.entries = [("rev", "[0-9]+")] := by decide +kernel
      rw [Std.HashMap.mem_toList_iff_getElem?_eq_some, Std.HashMap.ofList_singleton,
        Std.HashMap.getElem?_insert, hentries]
      by_cases hname : name = "rev"
      · subst hname
        simp [eq_comm]
      · simp [hname, Ne.symm hname]
    rw [hhashed, hordered]
    exact compile_wikiPattern

end RoutePatterns
