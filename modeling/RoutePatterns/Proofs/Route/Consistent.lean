import RoutePatterns.Proofs.Route.OptionalRun

/-!
# What the fields of a route have to do with each other

The lists of names of a compiled route are those of its tokens, none of them repeats a name, the optional
variables come from tokens at the end of the path, and the static prefix is a text that the path begins with
(`Route.Consistent`). The prefix is seen three times: it is the first token, the raw path begins with it
(`staticPrefix_prefix_path`), since marks are only left out after a brace, and so does everything that is
generated (`staticPrefix_prefix_render`).
-/

namespace RoutePatterns

variable {overrides params : Lookup} {optional : List String} {host path s : String}
  {p : CompiledPart} {r : Route}

namespace Route

/-- The fields of a route fit each other, and the host and the path that the route comes from. -/
structure Consistent (host path : String) (r : Route) : Prop where
  pathVariables_eq : r.pathVariables = Token.names r.pathTokens
  pathVariables_nodup : r.pathVariables.Nodup
  hostVariables_eq : r.hostVariables = Token.names r.hostTokens
  hostVariables_nodup : r.hostVariables.Nodup
  /-- The variables of the host come first, and then those of the path that are not among them. -/
  allVariables_eq : r.allVariables = r.hostVariables ++ r.pathVariables.filter (· ∉ r.hostVariables)
  allVariables_nodup : r.allVariables.Nodup
  /-- The optional variables are those of the tokens at the end of the path. -/
  exists_run : ∃ run, run <:+ r.pathTokens ∧ (∀ token ∈ run, token.name?.isSome) ∧
    r.optionalVariables = Token.names run
  /-- The prefix is the first token, if that is a text. -/
  staticPrefix_of_text : ∀ content tokens, r.pathTokens = .text content :: tokens → r.staticPrefix = content
  /-- There is no prefix, if the first token is a variable or there is none. -/
  staticPrefix_of_not_text : (∀ content tokens, r.pathTokens ≠ .text content :: tokens) → r.staticPrefix = ""
  /-- The path begins with the prefix as it is written. -/
  prefix_path : r.staticPrefix.toList <+: path.toList
  /-- Every path that is generated begins with the prefix. -/
  prefix_generated : ∀ params s, r.generatePath params = .ok s → r.staticPrefix.toList <+: s.toList
  hostRegex_eq_empty_iff : r.hostRegex = "" ↔ host = ""
  /-- A route for every host has nothing to say about it. -/
  of_host_eq_empty : host = "" → r.hostTokens = [] ∧ r.hostVariables = []

end Route

/-! ### Names -/

/-- The names that are collected apart from the tokens are those of the tokens, and none is collected twice. -/
theorem names_of_compilePart {part : Part} {pattern : String}
    (h : compilePart part overrides optional pattern = .ok p) : p.names = Token.names p.tokens ∧ p.names.Nodup := by
  obtain ⟨_, _, hlayout⟩ := exists_layout h
  rw [hlayout.names, hlayout.tokens]
  exact ⟨rfl, hlayout.nodup⟩

theorem names_of_compileHost (h : compileHost overrides host = .ok p) :
    p.names = Token.names p.tokens ∧ p.names.Nodup := by
  rcases compileHost_cases h with ⟨-, rfl⟩ | ⟨-, hpart⟩
  · exact ⟨rfl, List.nodup_nil⟩
  · exact names_of_compilePart hpart

/-- **Names that are added one after the other are those that were not there**, if none of them is repeated. -/
theorem mergeNames_eq (names : List String) {names' : List String} (h : names'.Nodup) :
    mergeNames names names' = names ++ names'.filter (· ∉ names) := by
  induction names' generalizing names with
  | nil => rw [mergeNames, List.foldl_nil, List.filter_nil, List.append_nil]
  | cons name names' ih =>
    obtain ⟨hnew, hnodup⟩ := List.nodup_cons.1 h
    have hstep : mergeNames names (name :: names') = mergeNames (addName names name) names' := rfl
    rw [hstep, ih (addName names name) hnodup, addName]
    by_cases hmem : name ∈ names
    · rw [if_pos (List.contains_iff_mem.2 hmem), List.filter_cons_of_neg (by simpa using hmem)]
    · -- The name is not repeated, so that it is there now makes no difference for those that follow.
      have hrest : names'.filter (· ∉ names ++ [name]) = names'.filter (· ∉ names) := by
        refine List.filter_congr fun other hother => ?_
        have hne : other ≠ name := fun heq => hnew (heq ▸ hother)
        simp [hne]
      rw [if_neg (by simpa using hmem), hrest, List.filter_cons_of_pos (by simpa using hmem), List.append_assoc,
        List.singleton_append]

/-- No name is repeated if those of a first list are left out of a second one. -/
theorem nodup_append_filter {names names' : List String} (h : names.Nodup) (h' : names'.Nodup) :
    (names ++ names'.filter (· ∉ names)).Nodup := by
  refine List.nodup_append.2 ⟨h, h'.filter _, ?_⟩
  rintro name hname other hother rfl
  have hnew := (List.mem_filter.1 hother).2
  simp [hname] at hnew

/-! ### The prefix -/

/-- A path begins with its prefix as it is written: no mark stands before the first placeholder. -/
theorem staticPrefix_prefix_path (h : compilePath overrides path = .ok p) :
    p.staticPrefix.toList <+: path.toList := by
  rw [toList_path_of_compilePath h, CompiledPart.staticPrefix]
  split
  · next content tokens htokens =>
    rw [htokens, List.flatMap_cons, List.flatMap_append, Token.pieces, Piece.flatMap_written_map_char]
    exact List.prefix_append _ _
  · exact List.nil_prefix

/-- What is generated begins with the text that the tokens begin with. -/
theorem staticPrefix_prefix_render (h : render p.tokens optional params = .ok s) :
    p.staticPrefix.toList <+: s.toList := by
  rw [CompiledPart.staticPrefix]
  split
  · next content tokens htokens =>
    rw [htokens, render] at h
    obtain ⟨rest, -, rfl⟩ := renderFrom_text_eq_ok_iff.1 h
    rw [String.toList_append]
    exact List.prefix_append _ _
  · exact List.nil_prefix

theorem CompiledPart.staticPrefix_of_not_text
    (h : ∀ content tokens, p.tokens ≠ .text content :: tokens) : p.staticPrefix = "" := by
  rw [staticPrefix]
  split
  · next content tokens htokens => exact absurd htokens (h content tokens)
  · rfl

/-! ### The optional variables -/

/-- The optional variables are those of variables at the end of the tokens. -/
theorem exists_run_of_compilePart {part : Part} {pattern : String}
    (h : compilePart part overrides optional pattern = .ok p) :
    ∃ run, run <:+ p.tokens ∧ (∀ token ∈ run, token.name?.isSome) ∧
      p.optionalVariables = Token.names run := by
  obtain ⟨before, run, hlayout⟩ := exists_layout h
  refine ⟨run, ?_, fun token htoken => ?_, hlayout.optional⟩
  · rw [hlayout.tokens]
    exact List.suffix_append _ _
  · exact Token.isSome_name?_of_isOneOf (hlayout.isOneOf token htoken)

/-! ### Routes -/

/-- **The fields of every compiled route are consistent**, whatever the overrides. -/
theorem consistent_of_compile (h : compileWith host path overrides = .ok r) : r.Consistent host path := by
  obtain ⟨p, p', hhost, hpath, rfl⟩ := compileWith_eq_ok h
  obtain ⟨hhostNames, hhostNodup⟩ := names_of_compileHost hhost
  obtain ⟨hpathNames, hpathNodup⟩ := names_of_compilePart hpath
  exact {
    pathVariables_eq := hpathNames
    pathVariables_nodup := hpathNodup
    hostVariables_eq := hhostNames
    hostVariables_nodup := hhostNodup
    allVariables_eq := mergeNames_eq p.names hpathNodup
    allVariables_nodup := by
      show (mergeNames p.names p'.names).Nodup
      rw [mergeNames_eq p.names hpathNodup]
      exact nodup_append_filter hhostNodup hpathNodup
    exists_run := exists_run_of_compilePart hpath
    staticPrefix_of_text := by
      intro content tokens htokens
      show p'.staticPrefix = content
      rw [CompiledPart.staticPrefix, show p'.tokens = _ from htokens]
    staticPrefix_of_not_text := CompiledPart.staticPrefix_of_not_text
    prefix_path := staticPrefix_prefix_path hpath
    prefix_generated := fun _ _ hgenerate => staticPrefix_prefix_render hgenerate
    hostRegex_eq_empty_iff := regex_eq_empty_iff_of_compileHost hhost
    of_host_eq_empty := by
      intro hempty
      rcases compileHost_cases hhost with ⟨-, rfl⟩ | ⟨hne, -⟩
      · exact ⟨rfl, rfl⟩
      · exact absurd hempty hne }

/-- The prefix of `wikiPattern` holds a stray brace, and a route without a host has an empty expression for it. -/
theorem consistent_of_compile_wiki :
    wikiRoute.Consistent "{lang}.wiki.org" wikiPattern.path ∧
      "/w/\x7b".toList <+: "/w/\x7bMain-7.raw{}".toList ∧
      ∃ r, compileWith "" "/{page?}" (fun _ => none) = .ok r ∧ r.hostRegex = "" ∧ r.hostTokens = [] := by
  have hwiki : wikiRoute.Consistent "{lang}.wiki.org" wikiPattern.path :=
    consistent_of_compile compile_wikiPattern
  refine ⟨hwiki, ?_, ?_⟩
  · refine hwiki.prefix_generated (Bindings.ofList [("title", "Main"), ("rev", "7")]).get? _ ?_
    decide +kernel
  · obtain ⟨r, hr⟩ : ∃ r, compileWith "" "/{page?}" (fun _ => none) = .ok r := ⟨_, rfl⟩
    have hroute := consistent_of_compile hr
    exact ⟨r, hr, hroute.hostRegex_eq_empty_iff.2 rfl, (hroute.of_host_eq_empty rfl).1⟩

end RoutePatterns
