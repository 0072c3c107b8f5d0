import RoutePatterns.Proofs.Pattern.Canonical
import RoutePatterns.Proofs.Pattern.Marks
import RoutePatterns.Proofs.Route.Layout

/-!
# Routes that are printed

The tokens of a compiled route are written back as the texts that they were read from, and no other
canonical tokens are (`tokenized_of_compile`). A pattern that is printed from the tokens, where only the
variables that may be missing are marked as optional, is compiled to the same route (`compile_printed`).
So the marks of other placeholders have no effect: a mark counts only where nothing but marked
placeholders comes after it (`compilePart_eq_of_run`).
-/

namespace RoutePatterns

open Token

/-! ### The tokens of a text -/

/-- The tokens are written as the text, they are canonical, and they are the only canonical ones that are
written so, up to the constraints. -/
structure Tokenized (text : String) (tokens : List Token) : Prop where
  printAll : Token.printAll [] tokens = text
  canonical : Canonical tokens
  unique : ∀ others, Canonical others → (∀ name ∈ Token.names others, IsSlotName name) →
    Token.printAll [] others = text → others.map Token.bare = tokens.map Token.bare

theorem flatMap_pieces_tokens (part : Part) (overrides : Lookup) (pattern : String) :
    (tokens part overrides pattern).flatMap Token.pieces = scan .plain pattern := by
  rw [tokens, flatMap_pieces_tokensAfter]
  rfl

/-- Tokens are seen again in the text that they are written as, if no other placeholder comes about. -/
theorem scan_printAll {tokens : List Token} (h : Proper .plain (tokens.flatMap Token.pieces)) :
    scan .plain (Token.printAll [] tokens) = tokens.flatMap Token.pieces := by
  rw [scan, toList_printAll, written_endingOf_nil, ← Piece.flatMap_written_plain,
    scanAfter_flatMap_written h, Piece.seen_plain, List.flatMap_singleton']

theorem tokenized_tokens (part : Part) (overrides : Lookup) (pattern : String) :
    Tokenized pattern (tokens part overrides pattern) := by
  constructor
  · rw [← String.toList_inj, toList_printAll, written_endingOf_nil, flatMap_pieces_tokens,
      flatMap_text_scan]
  · rw [tokens]
    refine canonical_tokensAfter part overrides ?_
    exact proper_scan .plain pattern
  · intro others hcanonical hnames hprint
    have hread := bare_tokensAfter_pieces part overrides hcanonical (fun hne => absurd rfl hne)
    rw [← scan_printAll (proper_flatMap_pieces hcanonical hnames), hprint] at hread
    exact hread.symm

variable {part : Part} {overrides : Lookup} {optional optional' : List String}
  {pattern host path : String} {pieces : List Piece} {p : CompiledPart} {q : Pattern} {r : Route}

theorem tokens_of_compileHost (h : compileHost overrides host = .ok p) :
    p.tokens = tokens .host overrides host := by
  rcases compileHost_cases h with ⟨rfl, rfl⟩ | ⟨-, hpart⟩
  · rfl
  · obtain ⟨-, rfl⟩ := compilePart_eq_ok hpart
    rfl

theorem tokens_of_compilePath (h : compilePath overrides path = .ok p) :
    p.tokens = tokens .path overrides (withoutMarks path) := by
  obtain ⟨-, rfl⟩ := compilePart_eq_ok h
  rfl

/-- A route with stray braces, an optional placeholder that is not at the end of the path, and an
override. -/
def wikiPattern : Pattern where
  host := "{lang}.wiki.org"
  path := "/w/\x7b{title}-{rev?}.raw{}/{format?}"
  overrides := .ofList [("rev", "[0-9]+")]

/-- What `wikiPattern` is compiled to. -/
def wikiRoute : Route where
  staticPrefix := "/w/\x7b"
  pathRegex := "^/w/\\\x7b(?<title>[^/\\-]+)\\-(?<rev>[0-9]+)\\.raw\\\x7b\\\x7d(?:/(?<format>[^/]+))?$"
  pathTokens := [.text "/w/\x7b", .var none "[^/\\-]+" "title", .var (some '-') "[0-9]+" "rev",
    .text ".raw{}", .var (some '/') "[^/]+" "format"]
  pathVariables := ["title", "rev", "format"]
  optionalVariables := ["format"]
  hostRegex := "^(?<lang>[^\\.]+)\\.wiki\\.org$"
  hostTokens := [.var none "[^\\.]+" "lang", .text ".wiki.org"]
  hostVariables := ["lang"]
  allVariables := ["lang", "title", "rev", "format"]

theorem compile_wikiPattern : compile wikiPattern = .ok wikiRoute := by rfl

/-- **Nothing is lost in the tokens of a route**, and they are the only canonical ones. The path is cut into tokens
without its marks, and leaving these out changes nothing else. -/
theorem tokenized_of_compile (hcompile : compile q = .ok r) :
    Tokenized q.host r.hostTokens ∧ Tokenized (withoutMarks q.path) r.pathTokens ∧
      IsUnmarked q.path (withoutMarks q.path) := by
  obtain ⟨host, path, hhost, hpath, rfl⟩ := compile_eq_ok hcompile
  show Tokenized q.host host.tokens ∧ Tokenized (withoutMarks q.path) path.tokens ∧ _
  rw [tokens_of_compileHost hhost, tokens_of_compilePath hpath]
  exact ⟨tokenized_tokens _ _ _, tokenized_tokens _ _ _, isUnmarked_withoutMarks q.path⟩

theorem tokenized_wikiPattern :
    Tokenized "{lang}.wiki.org" wikiRoute.hostTokens ∧
      Tokenized "/w/\x7b{title}-{rev}.raw{}/{format}" wikiRoute.pathTokens ∧
        IsUnmarked "/w/\x7b{title}-{rev?}.raw{}/{format?}" "/w/\x7b{title}-{rev}.raw{}/{format}" := by
  have hmarks : withoutMarks wikiPattern.path = "/w/\x7b{title}-{rev}.raw{}/{format}" := by
    decide +kernel
  have htokenized := tokenized_of_compile compile_wikiPattern
  rw [hmarks] at htokenized
  exact htokenized

/-! ### Marks that count -/

theorem takeWhile_eq_of_imp {α : Type} {p q : α → Bool} {l : List α} (hqp : ∀ a, q a = true → p a = true)
    (hpq : ∀ a ∈ l.takeWhile p, q a = true) : l.takeWhile q = l.takeWhile p := by
  induction l with
  | nil => rfl
  | cons a l ih =>
    by_cases hp : p a = true
    · rw [List.takeWhile_cons_of_pos hp] at hpq ⊢
      obtain ⟨hq, hpq⟩ := List.forall_mem_cons.1 hpq
      rw [List.takeWhile_cons_of_pos hq, ih hpq]
    · have hq : ¬ q a = true := by
        intro hq
        exact hp (hqp a hq)
      rw [List.takeWhile_cons_of_neg hp, List.takeWhile_cons_of_neg hq]

/-- The optional run is read from the end. -/
theorem optionalVariables_firstOptional (optional : List String) (tokens : List Token) (names : List String)
    (regex : String) : CompiledPart.optionalVariables ⟨tokens, names, regex, firstOptional optional tokens⟩ =
      Token.names (tokens.reverse.takeWhile (Token.isOneOf optional)).reverse := by
  have hprefix := List.takeWhile_prefix (Token.isOneOf optional) (l := tokens.reverse)
  have htake := List.prefix_iff_eq_take.1 hprefix
  rw [CompiledPart.optionalVariables, firstOptional]
  cases hn : (tokens.reverse.takeWhile (Token.isOneOf optional)).length with
  | zero =>
    rw [List.length_eq_zero_iff.1 hn]
    rfl
  | succ n =>
    rw [htake, hn, List.take_reverse, List.reverse_reverse]

/-- **Only the marks of the optional run count.** -/
theorem compilePart_eq_of_run (h : compilePart part overrides optional pattern = .ok p)
    (hrun : ∀ name ∈ p.optionalVariables, name ∈ optional')
    (hsub : ∀ name ∈ optional', name ∈ optional) :
    compilePart part overrides optional' pattern = .ok p := by
  obtain ⟨hcheck, rfl⟩ := compilePart_eq_ok h
  rw [optionalVariables_firstOptional] at hrun
  have htake : (tokens part overrides pattern).reverse.takeWhile (Token.isOneOf optional') =
      (tokens part overrides pattern).reverse.takeWhile (Token.isOneOf optional) := by
    apply takeWhile_eq_of_imp
    · intro token htoken
      obtain ⟨separator, constraint, name, rfl, hname⟩ := Token.isOneOf_iff.1 htoken
      exact Token.isOneOf_iff.2 ⟨separator, constraint, name, rfl, hsub name hname⟩
    · intro token htoken
      obtain ⟨separator, constraint, name, rfl, -⟩ :=
        Token.isOneOf_iff.1 (List.mem_takeWhile_imp htoken)
      have hname := hrun name (List.mem_filterMap.2 ⟨_, List.mem_reverse.2 htoken, rfl⟩)
      exact Token.isOneOf_iff.2 ⟨separator, constraint, name, rfl, hname⟩
  have hfirst : firstOptional optional' (tokens part overrides pattern) =
      firstOptional optional (tokens part overrides pattern) := by
    rw [firstOptional, firstOptional, htake]
  rw [compilePart, hcheck]
  simp only [hfirst]
  rfl

/-- A variable of the optional run is a variable of the text, and marked as optional. -/
theorem mem_of_mem_optionalVariables (h : compilePart part overrides optional pattern = .ok p) :
    ∀ name ∈ p.optionalVariables, name ∈ slotNames .plain pattern ∧ name ∈ optional := by
  obtain ⟨-, rfl⟩ := compilePart_eq_ok h
  intro name hname
  rw [optionalVariables_firstOptional] at hname
  obtain ⟨token, htoken, heq⟩ := List.mem_filterMap.1 hname
  have hrun := List.mem_reverse.1 htoken
  constructor
  · rw [← names_tokens part overrides]
    have hmem := (List.takeWhile_sublist _).subset hrun
    exact List.mem_filterMap.2 ⟨token, List.mem_reverse.1 hmem, heq⟩
  · obtain ⟨separator, constraint, other, rfl, hother⟩ :=
      Token.isOneOf_iff.1 (List.mem_takeWhile_imp hrun)
    obtain rfl := Option.some.inj heq
    exact hother

/-! ### Patterns that are written again -/

/-- A path in which only the optional placeholders of `keep` keep their marks. -/
def keepMarks (keep : List String) (path : String) : String :=
  String.ofList ((scan .optional path).flatMap (Piece.written (endingOf keep)))

theorem endingOf_eq_optional {keep : List String} {name : String} :
    endingOf keep name = .optional ↔ name ∈ keep := by
  rw [endingOf]
  split <;> simp_all

/-- A path is compiled as before if it is written with the marks of the variables of its optional run, and
of no variables that were not marked. -/
theorem compilePath_written (h : compilePath overrides path = .ok p) {keep : List String}
    (hpieces : Proper .optional pieces)
    (htext : String.ofList (pieces.flatMap Piece.text) = withoutMarks path)
    (hrun : ∀ name ∈ p.optionalVariables, name ∈ pieces.filterMap Piece.name? ∧ name ∈ keep)
    (hsub : ∀ name ∈ pieces.filterMap Piece.name?, name ∈ keep → name ∈ optionalNames path) :
    compilePath overrides (String.ofList (pieces.flatMap (Piece.written (endingOf keep)))) = .ok p := by
  rw [compilePath, withoutMarks_written hpieces, optionalNames_written hpieces, htext]
  refine compilePart_eq_of_run h ?_ ?_
  · intro name hname
    obtain ⟨hmem, hkeep⟩ := hrun name hname
    exact List.mem_filter.2 ⟨hmem, by simpa using endingOf_eq_optional.2 hkeep⟩
  · intro name hname
    obtain ⟨hmem, hending⟩ := List.mem_filter.1 hname
    exact hsub name hmem (endingOf_eq_optional.1 (by simpa using hending))

theorem compilePath_printAll (h : compilePath overrides path = .ok p) :
    compilePath overrides (Token.printAll p.optionalVariables p.tokens) = .ok p := by
  have hpieces : p.tokens.flatMap Token.pieces = scan .plain (withoutMarks path) := by
    rw [tokens_of_compilePath h, flatMap_pieces_tokens]
  have hprint : Token.printAll p.optionalVariables p.tokens = String.ofList
      ((scan .plain (withoutMarks path)).flatMap (Piece.written (endingOf p.optionalVariables))) := by
    rw [← hpieces, ← toList_printAll, String.ofList_toList]
  have hmem := mem_of_mem_optionalVariables h
  rw [hprint]
  refine compilePath_written h (proper_scan_withoutMarks path) ?_ ?_ ?_
  · rw [flatMap_text_scan, String.ofList_toList]
  · intro name hname
    exact ⟨(hmem name hname).1, hname⟩
  · intro name _ hname
    exact (hmem name hname).2

theorem compilePath_keepMarks (h : compilePath overrides path = .ok p) {keep : List String}
    (hkeep : ∀ name ∈ p.optionalVariables, name ∈ keep) :
    compilePath overrides (keepMarks keep path) = .ok p := by
  refine compilePath_written h (proper_scan .optional path) rfl ?_ ?_
  · intro name hname
    exact ⟨(mem_of_mem_optionalVariables h name hname).2, hkeep name hname⟩
  · intro name hname _
    exact hname

theorem printAll_of_compileHost (h : compileHost overrides host = .ok p) :
    Token.printAll [] p.tokens = host := by
  rw [tokens_of_compileHost h]
  exact (tokenized_tokens _ _ _).printAll

theorem compile_of_parts {p p' : CompiledPart} (hhost : compileHost q.overrides.get? q.host = .ok p)
    (hpath : compilePath q.overrides.get? q.path = .ok p') : compile q = .ok (Route.ofParts p p') :=
  compileWith_of_parts hhost hpath

/-- **A printed route is compiled to itself**, and the marks of placeholders outside the optional run have
no effect. -/
theorem compile_printed (hcompile : compile q = .ok r) :
    compile ⟨Token.printAll [] r.hostTokens, Token.printAll r.optionalVariables r.pathTokens,
        q.overrides⟩ = .ok r ∧
      ∀ keep : List String, (∀ name ∈ r.optionalVariables, name ∈ keep) →
        compile ⟨q.host, keepMarks keep q.path, q.overrides⟩ = .ok r := by
  obtain ⟨host, path, hhost, hpath, rfl⟩ := compile_eq_ok hcompile
  constructor
  · have hprinted : Token.printAll [] host.tokens = q.host := printAll_of_compileHost hhost
    refine compile_of_parts ?_ (compilePath_printAll hpath)
    show compileHost q.overrides.get? (Token.printAll [] host.tokens) = .ok host
    rw [hprinted, hhost]
  · intro keep hkeep
    exact compile_of_parts hhost (compilePath_keepMarks hpath hkeep)

theorem compile_printed_wiki :
    compile ⟨"{lang}.wiki.org", "/w/\x7b{title}-{rev}.raw{}/{format?}", wikiPattern.overrides⟩ =
        .ok wikiRoute ∧
      compile ⟨"{lang}.wiki.org", keepMarks ["format"] wikiPattern.path, wikiPattern.overrides⟩ =
        .ok wikiRoute := by
  have hhost : Token.printAll [] wikiRoute.hostTokens = "{lang}.wiki.org" := by decide +kernel
  have hpath : Token.printAll wikiRoute.optionalVariables wikiRoute.pathTokens =
      "/w/\x7b{title}-{rev}.raw{}/{format?}" := by decide +kernel
  obtain ⟨hprinted, hmarks⟩ := compile_printed compile_wikiPattern
  rw [hhost, hpath] at hprinted
  exact ⟨hprinted, hmarks ["format"] (fun _ hname => hname)⟩

end RoutePatterns
