import RoutePatterns.Proofs.Route.Layout

/-!
# Generation and matching undo each other

For patterns without constraint overrides, whose names are of ASCII:

* a generated path is matched by the regular expression of its route, which captures the values that
  were filled in (`generate_undone_by_match`), if the variables are kept apart by separators;
* a matched path is generated again from what was captured (`match_undone_by_generate`);
* the regular expression matches exactly what can be generated (`match_iff_generate`), and where all
  tokens are optional also texts that leave out the first value but not the next one.

The same holds for hosts. All of this follows from the layout of the tokens, for one compiled host or
path at a time.
-/

namespace RoutePatterns

open Regex

variable {part : Part} {p : CompiledPart} {before run tokens : List Token} {params caps : Lookup}
  {s : String} {e : Expr} {separator : Option Char} {constraint name : String}

/-! ### Generated texts are matched -/

/-- A text is matched by a regular expression, and the group of a variable captures its value if the
variable takes part in the text, and otherwise takes no part in the match. -/
def Undone (regex : String) (names optional : List String) (params : Lookup) (s : String) : Prop :=
  ∃ e, exprOfText? regex = some e ∧ e.found s.toList = true ∧ ∃ caps, e.captures? s = some caps ∧
    ∀ name ∈ names,
      (Emits optional params name → (params name).isSome ∧ caps name = params name) ∧
        (¬ Emits optional params name → caps name = none)

namespace Layout

/-- If the first token is optional, all tokens are in the optional run. -/
theorem eq_nil_of_eq_cons (h : Layout p before run)
    (htokens : before ++ run = .var separator constraint name :: tokens)
    (hname : name ∈ Token.names run) : before = [] := by
  cases before with
  | nil => rfl
  | cons token before =>
    obtain ⟨rfl, -⟩ := List.cons.inj htokens
    exact absurd hname (h.not_mem_names name List.mem_cons_self)

theorem isOneOf_of_eq_cons (h : Layout p before run)
    (htokens : before ++ run = .var separator constraint name :: tokens)
    (hname : name ∈ Token.names run) : ∀ token ∈ tokens, token.isOneOf (Token.names run) = true := by
  obtain rfl := h.eq_nil_of_eq_cons htokens hname
  rw [List.nil_append] at htokens
  exact fun token htoken => h.isOneOf token (htokens ▸ List.mem_cons_of_mem _ htoken)

theorem undone (h : Layout p before run) (hplain : Plain part (before ++ run))
    (hdelimited : Delimited Satisfies (before ++ run))
    (hrender : render p.tokens p.optionalVariables params = .ok s) :
    Undone p.regex p.names p.optionalVariables params s := by
  have hfilled := h.filled_of_render hrender
  have hfound := found_of_matched h.not_mem_names h.isOneOf hplain.admits (.filled hfilled)
  obtain ⟨caps, hcaps⟩ := exists_captures?_of_found hfound
  refine ⟨_, h.exprOfText?_of_plain hplain, hfound, caps, hcaps, fun name hname => ?_⟩
  obtain ⟨values, hmatched, hlookup⟩ :=
    exists_matched_of_captures? h.not_mem_names h.isOneOf hplain.reflects hcaps
  obtain rfl := hmatched.unique hdelimited (fun _ _ _ _ => h.isOneOf_of_eq_cons) hfilled
  rw [hlookup, lookup_reverse (hmatched.names_sublist.nodup h.nodup), h.optional]
  rw [h.tokens, h.optional] at hrender
  rw [h.names] at hname
  exact lookup_emitted_of_render h.not_mem_names hrender hname

end Layout

/-! ### Matched texts are generated -/

/-- The optional run begins with the first token. -/
def RunIsFirst (tokens : List Token) (optional : List String) : Prop :=
  ∃ name ∈ optional, tokens.head?.bind Token.name? = some name

/-- The first of the optional variables has a value, or no variable has one. -/
def FirstOrNone (names optional : List String) (values : Lookup) : Prop :=
  (∃ name, optional.head? = some name ∧ (values name).isSome) ∨ ∀ name ∈ names, values name = none

/-- A regular expression matches only texts that `generate` gives for what its groups captured for
`names`, if that is `suited`. -/
def GivenBack (regex : String) (names : List String) (suited : Lookup → Prop)
    (generate : Lookup → Except GenerateError String) : Prop :=
  ∃ e, exprOfText? regex = some e ∧ ∀ s, e.found s.toList = true → ∃ caps, e.captures? s = some caps ∧
    (suited caps → ∀ params, (∀ name ∈ names, params name = caps name) → generate params = .ok s)

/-- If the optional run is not filled in, it has no text. -/
theorem eq_empty_of_filled_nil {accepts : String → String → Prop} {optional : List String}
    (hrun : ∀ token ∈ run, token.isOneOf optional = true) (h : Filled accepts optional run [] s) :
    s = "" := by
  cases h with
  | nil => rfl
  | text _ => cases hrun _ List.mem_cons_self
  | stop _ => rfl

namespace Layout

theorem render_of_filled (h : Layout p before run) (hplain : Plain part (before ++ run))
    {values : List (String × String)}
    (hfilled : Filled Satisfies (Token.names run) (detached (Token.names run) (before ++ run)) values s)
    (hparams : ∀ name ∈ p.names, params name = values.lookup name) :
    render p.tokens p.optionalVariables params = .ok s := by
  rw [h.names] at hparams
  rw [h.tokens, h.optional, render, renderFrom_true]
  refine renderFrom_of_filled hfilled ?_ ((hplain.detached _).ne_empty hfilled) ?_
  · rw [names_detached]
    exact h.nodup
  · rw [names_detached]
    exact hparams

/-- Without any value, tokens that are all optional give the separator of the first one. -/
theorem render_of_none {optional : List String} (hname : name ∈ optional)
    (hnone : params name = none) :
    render (.var separator constraint name :: tokens) optional params =
      .ok (separatorText separator) := by
  have hused : usedValue optional params name = none := by
    rw [usedValue, hnone]
    rfl
  rw [render, renderFrom_var_of_none hused, if_pos hname]
  rfl

/-! If the first value is skipped, the first variable has no value, and the text is generated only if no
other variable has one either. -/

theorem head?_optionalVariables (h : Layout p before run)
    (htokens : before ++ run = .var separator constraint name :: tokens)
    (hname : name ∈ Token.names run) : p.optionalVariables.head? = some name := by
  obtain rfl := h.eq_nil_of_eq_cons htokens hname
  rw [List.nil_append] at htokens
  rw [h.optional, htokens]
  rfl

theorem lookup_eq_none_of_skipped (h : Layout p before run)
    (htokens : before ++ run = .var separator constraint name :: tokens)
    {accepts : String → String → Prop} {optional : List String} {values : List (String × String)}
    (hfilled : Filled accepts optional tokens values s) : values.lookup name = none := by
  have hnodup := h.nodup
  rw [htokens] at hnodup
  have hnotMem := (List.nodup_cons.1 (show (name :: Token.names tokens).Nodup from hnodup)).1
  exact lookup_eq_none_iff_not_mem.2 fun hname => hnotMem (hfilled.names_sublist.subset hname)

theorem render_of_skipped (h : Layout p before run)
    (htokens : before ++ run = .var separator constraint name :: tokens)
    (hname : name ∈ Token.names run) (hfilled : Filled Satisfies (Token.names run) tokens [] s)
    (hnone : params name = none) :
    render p.tokens p.optionalVariables params = .ok (separatorText separator ++ s) := by
  obtain rfl := eq_empty_of_filled_nil (h.isOneOf_of_eq_cons htokens hname) hfilled
  rw [h.tokens, h.optional, htokens, render_of_none hname hnone, String.append_empty]

theorem render_of_captures? (h : Layout p before run) (hplain : Plain part (before ++ run))
    (he : Regex.exprOfText? p.regex = some e) (hcaps : e.captures? s = some caps)
    (hfirst : RunIsFirst p.tokens p.optionalVariables → FirstOrNone p.names p.optionalVariables caps)
    (hparams : ∀ name ∈ p.names, params name = caps name) :
    render p.tokens p.optionalVariables params = .ok s := by
  obtain rfl := Option.some.inj ((h.exprOfText?_of_plain hplain).symm.trans he)
  obtain ⟨values, hmatched, hlookup⟩ :=
    exists_matched_of_captures? h.not_mem_names h.isOneOf hplain.reflects hcaps
  have hlookup' (name : String) : caps name = values.lookup name :=
    (hlookup name).trans (lookup_reverse (hmatched.names_sublist.nodup h.nodup) name)
  cases hmatched with
  | filled hfilled =>
    exact h.render_of_filled hplain hfilled fun name hname => (hparams name hname).trans (hlookup' name)
  | @skipped separator constraint name tokens s' htokens hname hfilled hs =>
    have hnames : p.names = name :: Token.names tokens := by
      rw [h.names, htokens]
      rfl
    have hnone : caps name = none := by rw [hlookup', h.lookup_eq_none_of_skipped htokens hfilled]
    have hall : ∀ n ∈ p.names, caps n = none := by
      refine (hfirst ⟨name, h.optional ▸ hname, by rw [h.tokens, htokens]; rfl⟩).resolve_left ?_
      rintro ⟨n, hn, hsome⟩
      obtain rfl := Option.some.inj (hn.symm.trans (h.head?_optionalVariables htokens hname))
      rw [hnone] at hsome
      cases hsome
    -- Any other value would be captured, too.
    cases values with
    | cons v values =>
      have hmem : v.1 ∈ p.names := by
        rw [hnames]
        exact List.mem_cons_of_mem _ (hfilled.names_sublist.subset List.mem_cons_self)
      have hsome := hall v.1 hmem
      rw [hlookup', List.lookup_cons_self] at hsome
      cases hsome
    | nil =>
      rw [hs]
      refine h.render_of_skipped htokens hname hfilled ((hparams name ?_).trans hnone)
      rw [hnames]
      exact List.mem_cons_self

theorem givenBack (h : Layout p before run) (hplain : Plain part (before ++ run)) :
    GivenBack p.regex p.names
      (fun caps => RunIsFirst p.tokens p.optionalVariables →
        FirstOrNone p.names p.optionalVariables caps)
      (render p.tokens p.optionalVariables) := by
  have he := h.exprOfText?_of_plain hplain
  refine ⟨_, he, fun s hs => ?_⟩
  obtain ⟨caps, hcaps⟩ := exists_captures?_of_found hs
  exact ⟨caps, hcaps, fun hfirst params hparams =>
    h.render_of_captures? hplain he hcaps hfirst hparams⟩

end Layout

/-! ### What is matched -/

/-- A text that leaves out the first value of tokens that are all optional: the separator of the first
one, and then an initial part of the others that is not empty. -/
def LeavesOutFirst (tokens : List Token) (optional : List String) (s : String) : Prop :=
  ∃ separator constraint name part rest texts,
    tokens = .var separator constraint name :: (part ++ rest) ∧ name ∈ optional ∧ part ≠ [] ∧
      List.Forall₂ (Rendered Satisfies) part texts ∧
      s = separatorText separator ++ String.join texts

namespace Layout

theorem found_iff (h : Layout p before run) (hplain : Plain part (before ++ run))
    (he : Regex.exprOfText? p.regex = some e) :
    e.found s.toList = true ↔
      (∃ params : Bindings, render p.tokens p.optionalVariables params.get? = .ok s) ∨
        LeavesOutFirst p.tokens p.optionalVariables s := by
  obtain rfl := Option.some.inj ((h.exprOfText?_of_plain hplain).symm.trans he)
  constructor
  · intro hfound
    obtain ⟨caps, hcaps⟩ := exists_captures?_of_found hfound
    obtain ⟨values, hmatched, -⟩ :=
      exists_matched_of_captures? h.not_mem_names h.isOneOf hplain.reflects hcaps
    have hnodup := hmatched.names_sublist.nodup h.nodup
    cases hmatched with
    | filled hfilled =>
      refine .inl ⟨.ofList values, h.render_of_filled hplain hfilled fun name _ => ?_⟩
      rw [Bindings.get?_ofList, lookup_reverse hnodup]
    | skipped htokens hname hfilled hs =>
      obtain ⟨initial, rest, texts, rfl, htexts, rfl⟩ :=
        exists_part_of_filled (h.isOneOf_of_eq_cons htokens hname) hfilled
      -- Without any value, what is left is the separator, which is generated from no values.
      cases initial with
      | nil =>
        cases htexts
        refine .inl ⟨.empty, ?_⟩
        rw [h.tokens, h.optional, htokens, render_of_none hname (Bindings.get?_empty _), hs,
          String.join_nil, String.append_empty]
      | cons token initial =>
        exact .inr ⟨_, _, _, token :: initial, rest, texts, h.tokens.trans htokens,
          h.optional ▸ hname, List.cons_ne_nil _ _, htexts, hs⟩
  · intro hcases
    rcases hcases with ⟨params, hrender⟩ |
      ⟨separator, constraint, name, initial, rest, texts, htokens, hname, -, htexts, hs⟩
    · exact found_of_matched h.not_mem_names h.isOneOf hplain.admits
        (.filled (h.filled_of_render hrender))
    · rw [h.tokens] at htokens
      rw [h.optional] at hname
      have hrest : ∀ token ∈ rest, token.isOneOf (Token.names run) = true := fun t ht =>
        h.isOneOf_of_eq_cons htokens hname t (List.mem_append_right _ ht)
      obtain ⟨values, hfilled⟩ := exists_filled_of_part hrest htexts
      exact found_of_matched h.not_mem_names h.isOneOf hplain.admits
        (.skipped htokens hname hfilled hs)

end Layout

/-! ### Routes -/

variable {q : Pattern} {r : Route}

/-- The names of all placeholders consist of letters, digits and underscores of ASCII. -/
def AsciiNames (r : Route) : Prop :=
  ∀ name ∈ r.hostVariables ++ r.pathVariables, ∀ c ∈ name.toList, Unicode.isAsciiWord c = true

instance (r : Route) : Decidable (AsciiNames r) :=
  decidable_of_iff ((r.hostVariables ++ r.pathVariables).all fun name =>
    name.toList.all Unicode.isAsciiWord) (by simp only [AsciiNames, List.all_eq_true])

theorem compilePath_layout {overrides : Lookup} {path : String} (hnone : ∀ name, overrides name = none)
    (h : compilePath overrides path = .ok p)
    (hascii : ∀ name ∈ p.names, ∀ c ∈ name.toList, Unicode.isAsciiWord c = true) :
    ∃ before run, Layout p before run ∧ Plain .path (before ++ run) := by
  obtain ⟨before, run, hlayout⟩ := exists_layout h
  exact ⟨before, run, hlayout, hlayout.tokens ▸ plain_of_compilePart hnone h hascii⟩

theorem compileHost_layout {overrides : Lookup} {host : String} (hnone : ∀ name, overrides name = none)
    (hne : host ≠ "") (h : compileHost overrides host = .ok p)
    (hascii : ∀ name ∈ p.names, ∀ c ∈ name.toList, Unicode.isAsciiWord c = true) :
    ∃ before, Layout p before [] ∧ Plain .host before := by
  rw [compileHost, if_neg (by simpa using hne)] at h
  obtain ⟨before, run, hlayout⟩ := exists_layout h
  obtain rfl := run_eq_nil h hlayout
  have hplain := plain_of_compilePart hnone h hascii
  rw [hlayout.tokens, List.append_nil] at hplain
  exact ⟨before, hlayout, hplain⟩

theorem delimited_of_compilePart {overrides : Lookup} {optional : List String} {pattern : String}
    (hnone : ∀ name, overrides name = none) (h : compilePart part overrides optional pattern = .ok p)
    (hapart : Token.KeptApart p.tokens) : Delimited Satisfies p.tokens := by
  obtain ⟨-, rfl⟩ := compilePart_eq_ok h
  exact delimited_tokens hnone hapart

/-- A host of its own for every blog; the page and its size may be missing. -/
def blogPattern : Pattern where
  host := "{blog}.example.org"
  path := "/{page?}/{size?}"

/-- What `blogPattern` is compiled to. -/
def blogRoute : Route where
  staticPrefix := ""
  pathRegex := "^/(?<page>[^/]+)?(?:/(?<size>[^/]+))?$"
  pathTokens := [.var (some '/') "[^/]+" "page", .var (some '/') "[^/]+" "size"]
  pathVariables := ["page", "size"]
  optionalVariables := ["page", "size"]
  hostRegex := "^(?<blog>[^\\.]+)\\.example\\.org$"
  hostTokens := [.var none "[^\\.]+" "blog", .text ".example.org"]
  hostVariables := ["blog"]
  allVariables := ["blog", "page", "size"]

theorem compile_blogPattern : compile blogPattern = .ok blogRoute := by rfl

/-- **Generation is undone by matching**, where variables are kept apart by separators. -/
theorem generate_undone_by_match (hcompile : compile q = .ok r) (hoverrides : q.overrides = .empty)
    (hascii : AsciiNames r) :
    (Token.KeptApart r.pathTokens → ∀ params s, r.generatePath params = .ok s →
        Undone r.pathRegex r.pathVariables r.optionalVariables params s) ∧
      (Token.KeptApart r.hostTokens → ∀ params s, r.generateHost params = .ok s →
        Undone r.hostRegex r.hostVariables [] params s) := by
  have hnone : ∀ name, q.overrides.get? name = none := fun name => by rw [hoverrides]; rfl
  obtain ⟨host, path, hhost, hpath, rfl⟩ := compile_eq_ok hcompile
  constructor
  · intro hapart params s hgenerate
    obtain ⟨before, run, hlayout, hplain⟩ := compilePath_layout hnone hpath fun name hname =>
      hascii name (List.mem_append_right _ hname)
    have hdelimited := delimited_of_compilePart hnone hpath hapart
    rw [hlayout.tokens] at hdelimited
    exact hlayout.undone hplain hdelimited hgenerate
  · intro hapart params s hgenerate
    by_cases hempty : q.host = ""
    · rw [hempty] at hhost
      obtain rfl : {} = host := Except.ok.inj hhost
      obtain rfl : "" = s := Except.ok.inj hgenerate
      have hfound : Expr.empty.found "".toList = true := rfl
      obtain ⟨caps, hcaps⟩ := exists_captures?_of_found hfound
      exact ⟨.empty, rfl, hfound, caps, hcaps, fun name hname => by cases hname⟩
    · obtain ⟨before, hlayout, hplain⟩ := compileHost_layout hnone hempty hhost fun name hname =>
        hascii name (List.mem_append_left _ hname)
      rw [compileHost, if_neg (by simpa using hempty)] at hhost
      have hdelimited := delimited_of_compilePart hnone hhost hapart
      rw [hlayout.tokens] at hdelimited
      have hoptional : host.optionalVariables = [] := hlayout.optional
      rw [← hoptional]
      refine hlayout.undone (by rwa [List.append_nil]) hdelimited ?_
      rw [hoptional]
      exact hgenerate

theorem generate_undone_by_match_blog :
    blogRoute.generatePath (Bindings.ofList [("page", "2")]).get? = .ok "/2" ∧
      Undone blogRoute.pathRegex ["page", "size"] ["page", "size"]
        (Bindings.ofList [("page", "2")]).get? "/2" ∧
      Undone blogRoute.hostRegex ["blog"] [] (Bindings.ofList [("blog", "rust")]).get?
        "rust.example.org" := by
  have hpath : blogRoute.generatePath (Bindings.ofList [("page", "2")]).get? = .ok "/2" := by
    decide +kernel
  have hundone := generate_undone_by_match compile_blogPattern rfl (by decide)
  exact ⟨hpath, hundone.1 (by decide) _ _ hpath, hundone.2 (by decide) _ _ (by decide +kernel)⟩

/-- **Matching is undone by generation**, unless the optional run begins the path and other variables
than its first one have captured something. -/
theorem match_undone_by_generate (hcompile : compile q = .ok r) (hoverrides : q.overrides = .empty)
    (hascii : AsciiNames r) :
    GivenBack r.pathRegex r.pathVariables
        (fun caps => RunIsFirst r.pathTokens r.optionalVariables →
          FirstOrNone r.pathVariables r.optionalVariables caps)
        r.generatePath ∧
      (q.host ≠ "" → GivenBack r.hostRegex r.hostVariables (fun _ => True) r.generateHost) := by
  have hnone : ∀ name, q.overrides.get? name = none := fun name => by rw [hoverrides]; rfl
  obtain ⟨host, path, hhost, hpath, rfl⟩ := compile_eq_ok hcompile
  constructor
  · obtain ⟨before, run, hlayout, hplain⟩ := compilePath_layout hnone hpath fun name hname =>
      hascii name (List.mem_append_right _ hname)
    exact hlayout.givenBack hplain
  · intro hne
    obtain ⟨before, hlayout, hplain⟩ := compileHost_layout hnone hne hhost fun name hname =>
      hascii name (List.mem_append_left _ hname)
    rw [← List.append_nil before] at hplain
    have hgivenBack := hlayout.givenBack hplain
    have hoptional : host.optionalVariables = [] := hlayout.optional
    rw [hoptional] at hgivenBack
    obtain ⟨e, he, hs⟩ := hgivenBack
    refine ⟨e, he, fun s hfound => ?_⟩
    obtain ⟨caps, hcaps, hrender⟩ := hs s hfound
    exact ⟨caps, hcaps, fun _ => hrender fun ⟨name, hname, _⟩ => by cases hname⟩

theorem match_undone_by_generate_blog :
    ∃ e caps, exprOfText? blogRoute.pathRegex = some e ∧ e.captures? "/2" = some caps ∧
      caps "page" = some "2" ∧ caps "size" = none ∧ blogRoute.generatePath caps = .ok "/2" := by
  have hgivenBack := (match_undone_by_generate compile_blogPattern rfl (by decide)).1
  obtain ⟨e, he, hs⟩ := hgivenBack
  have hfound : (exprOfText? blogRoute.pathRegex).any (fun e => e.found "/2".toList) = true := by
    decide +kernel
  have hvalues : ((exprOfText? blogRoute.pathRegex).bind fun e => e.captures? "/2").map
      (fun caps => (caps "page", caps "size")) = some (some "2", none) := by decide +kernel
  rw [he] at hfound
  obtain ⟨caps, hcaps, hgenerate⟩ := hs "/2" hfound
  rw [he, Option.bind_some, hcaps] at hvalues
  obtain ⟨hpage, hsize⟩ := Prod.mk.inj (Option.some.inj hvalues)
  have hfirst : FirstOrNone ["page", "size"] ["page", "size"] caps :=
    .inl ⟨"page", rfl, Option.isSome_of_eq_some hpage⟩
  exact ⟨e, caps, he, hcaps, hpage, hsize, hgenerate (fun _ => hfirst) caps fun _ _ => rfl⟩

/-- **The regular expressions of a route match what can be generated**, and no more than that but for
paths that leave out the first value. -/
theorem match_iff_generate (hcompile : compile q = .ok r) (hoverrides : q.overrides = .empty)
    (hascii : AsciiNames r) :
    (∃ e, exprOfText? r.pathRegex = some e ∧ ∀ s, e.found s.toList = true ↔
        (∃ params : Bindings, r.generatePath params.get? = .ok s) ∨
          LeavesOutFirst r.pathTokens r.optionalVariables s) ∧
      (q.host ≠ "" → ∃ e, exprOfText? r.hostRegex = some e ∧ ∀ s, e.found s.toList = true ↔
        ∃ params : Bindings, r.generateHost params.get? = .ok s) := by
  have hnone : ∀ name, q.overrides.get? name = none := fun name => by rw [hoverrides]; rfl
  obtain ⟨host, path, hhost, hpath, rfl⟩ := compile_eq_ok hcompile
  constructor
  · obtain ⟨before, run, hlayout, hplain⟩ := compilePath_layout hnone hpath fun name hname =>
      hascii name (List.mem_append_right _ hname)
    have he := hlayout.exprOfText?_of_plain hplain
    exact ⟨_, he, fun s => hlayout.found_iff hplain he⟩
  · intro hne
    obtain ⟨before, hlayout, hplain⟩ := compileHost_layout hnone hne hhost fun name hname =>
      hascii name (List.mem_append_left _ hname)
    rw [← List.append_nil before] at hplain
    have he := hlayout.exprOfText?_of_plain hplain
    have hoptional : host.optionalVariables = [] := hlayout.optional
    refine ⟨_, he, fun s => ?_⟩
    rw [hlayout.found_iff hplain he, hoptional]
    refine or_iff_left ?_
    rintro ⟨_, _, _, _, _, _, _, hname, _⟩
    cases hname

theorem match_iff_generate_blog :
    (∃ e, exprOfText? blogRoute.pathRegex = some e ∧ e.found "//50".toList = true) ∧
      (∃ params : Bindings, blogRoute.generateHost params.get? = .ok "rust.example.org") ∧
      ¬ ∃ params : Bindings, blogRoute.generateHost params.get? = .ok "a.b.example.org" := by
  have hiff := match_iff_generate compile_blogPattern rfl (by decide)
  constructor
  · obtain ⟨e, he, hs⟩ := hiff.1
    have hsize : Satisfies "[^/]+" "50" :=
      (@checkConstraint_eq_ok_iff "size" _ _).1 (by decide +kernel)
    refine ⟨e, he, (hs _).2 (.inr ⟨some '/', "[^/]+", "page", [.var (some '/') "[^/]+" "size"], [],
      [separatorText (some '/') ++ "50"], rfl, by decide, by decide, .cons (.var hsize) .nil, rfl⟩)⟩
  · obtain ⟨e, he, hs⟩ := hiff.2 (by decide)
    have hfound : (exprOfText? blogRoute.hostRegex).map
        (fun e => (e.found "rust.example.org".toList, e.found "a.b.example.org".toList)) =
          some (true, false) := by
      decide +kernel
    rw [he] at hfound
    obtain ⟨hfound, hnot⟩ := Prod.mk.inj (Option.some.inj hfound)
    refine ⟨(hs _).1 hfound, fun h => ?_⟩
    rw [(hs _).2 h] at hnot
    cases hnot

end RoutePatterns
