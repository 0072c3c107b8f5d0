import Mathlib.Logic.Function.Basic
import RoutePatterns.Proofs.Pattern.Canonical
import RoutePatterns.Proofs.Pattern.Occurrence
import RoutePatterns.Proofs.Route.Enforced

/-!
# Texts without placeholders

A text is quoted so that the expression between `^` and `$` matches nothing else (`matchesOnly_quote`):
what is read for it are its characters one after the other (`Reader.leads_quote`), whatever they are. The
quoted text can therefore be told from every other one (`quote_injective`).

A host or path in which no placeholder stands (`IsLiteral`) is a single token, and its expression is the
quoted text (`compilePart_of_isLiteral`). So a route with such a host or path serves this one text there
(`compile_literal`).
-/

namespace RoutePatterns

open Regex

/-! ### Expressions for one text -/

/-- An expression that matches a single text. -/
structure MatchesOnly (regex text : String) : Prop where
  /-- The expression is valid, and it is found in the single text alone. -/
  found_iff : ∃ e, exprOfText? regex = some e ∧ ∀ t : String, e.found t.toList = true ↔ t = text
  /-- The engine refuses it for its limits only, and finds it in the same text within them. -/
  isMatch_iff : WithinLimits regex →
    ∃ r, ofText? regex = some r ∧ ∀ t, r.isMatch t = true ↔ t = text

/-- No placeholder stands in a text. -/
def IsLiteral (part : Part) (text : String) : Prop :=
  ∀ before name, ¬ OccursAt part text.toList before name

variable {part : Part} {overrides : Lookup} {optional : List String} {text host path : String}
  {cs : List Char}

theorem matchesOnly_of_found {regex : String} {e : Expr} (he : exprOfText? regex = some e)
    (hfound : ∀ t : String, e.found t.toList = true ↔ t = text) : MatchesOnly regex text where
  found_iff := ⟨e, he, hfound⟩
  isMatch_iff hlimits := by
    obtain ⟨r, hr⟩ := Option.isSome_iff_exists.1
      (isSome_ofText?_iff.2 ⟨Option.isSome_of_eq_some he, hlimits⟩)
    refine ⟨r, hr, fun t => ?_⟩
    obtain rfl := Option.some.inj ((exprOfText?_of_ofText? hr).symm.trans he)
    exact hfound t

theorem exprOfText?_quote (s : String) :
    exprOfText? ("^" ++ quote s ++ "$") = some (anchoredExpr (literals s.toList)) := by
  have h := @exprOfText?_assemble [.text s] [] (fun _ ht => by cases ht)
    (fun token ht => List.mem_singleton.1 ht ▸ trivial) List.nodup_nil
  rw [if_pos rfl, List.append_nil, assemble_none] at h
  simpa [Token.fragment, bodyExprs, nestedExprs, Token.exprs] using h

theorem found_literals {t : String} :
    (anchoredExpr (literals cs)).found t.toList = true ↔ t.toList = cs := by
  rw [Expr.found_iff]
  constructor
  · rintro ⟨p, q, hp, h⟩
    obtain ⟨-, -, h⟩ := (match_anchoredExpr hp).1 h
    exact ((Expr.match_literals (Nat.zero_le _)).1 h).eq_of_whole.symm
  · rintro rfl
    exact ⟨0, _, Nat.zero_le _, (match_anchoredExpr (Nat.zero_le _)).2
      ⟨rfl, rfl, (Expr.match_literals (Nat.zero_le _)).2 (.whole _)⟩⟩

/-- **A quoted text matches itself and nothing else.** -/
theorem matchesOnly_quote (s : String) : MatchesOnly ("^" ++ quote s ++ "$") s :=
  matchesOnly_of_found (exprOfText?_quote s) fun _ => found_literals.trans String.toList_inj

/-- Texts that are quoted alike are the same. -/
theorem quote_injective : Function.Injective quote := by
  intro s t h
  obtain ⟨e, he, hs⟩ := (matchesOnly_quote s).found_iff
  obtain ⟨e', he', ht⟩ := (matchesOnly_quote t).found_iff
  rw [← h, he] at he'
  obtain rfl := Option.some.inj he'
  exact (ht s).1 ((hs s).2 rfl)

/-! ### Hosts and paths without placeholders -/

theorem isLiteral_iff_names : IsLiteral part text ↔ part.names text.toList = [] := by
  rw [List.eq_nil_iff_forall_not_mem]
  simp only [mem_names_iff, not_exists]
  exact forall_comm

instance : Decidable (IsLiteral part text) := decidable_of_iff _ isLiteral_iff_names.symm

namespace Part

/-- A text in which no placeholder stands is its characters, one by one, and has no marks. -/
theorem pieces_of_not_occursAt (h : ∀ before name, ¬ OccursAt part cs before name) :
    part.pieces cs = cs.map .char ∧ part.unmarkedChars cs = cs := by
  induction cs using slot_induction part.endings with
  | nil => exact ⟨part.pieces_nil, by cases part <;> rfl⟩
  | char c cs hnone ih =>
    have hrest : ∀ before name, ¬ OccursAt part cs before name := fun before name hoccurs =>
      h (c :: before) name (hoccurs.append_left [c])
    rw [pieces_char hnone, unmarkedChars_char hnone, (ih hrest).1, (ih hrest).2]
    exact ⟨rfl, rfl⟩
  | slot ending hending name cs hname ih => exact absurd ⟨hname, ending, hending, cs, rfl⟩ (h [] name)

end Part

theorem unmarked_of_isLiteral (h : IsLiteral part text) : part.unmarked text = text := by
  rw [← String.toList_inj, Part.toList_unmarked, (Part.pieces_of_not_occursAt h).2]

/-- The tokens of a text without placeholders. -/
def literalTokens (text : String) : List Token := textToken text.toList.reverse

theorem literalTokens_eq (text : String) :
    literalTokens text = if text = "" then [] else [.text text] := by
  rw [literalTokens, textToken, List.reverse_reverse, String.ofList_toList]
  simp

theorem tokens_of_isLiteral (h : IsLiteral part text) : tokens part overrides text = literalTokens text := by
  have hscan := part.scan_unmarked text
  rw [unmarked_of_isLiteral h, (Part.pieces_of_not_occursAt h).1] at hscan
  have hchars : tokensAfter part overrides [] (text.toList.map .char ++ []) =
      tokensAfter part overrides (text.toList.reverse ++ []) [] := tokensAfter_map_char text.toList
  rw [List.append_nil, List.append_nil] at hchars
  rw [tokens, hscan, hchars, tokensAfter, literalTokens]

theorem firstOptional_literalTokens (optional : List String) (text : String) :
    firstOptional optional (literalTokens text) = none := by
  rw [literalTokens_eq]
  split <;> rfl

theorem assemble_literalTokens (text : String) :
    assemble (literalTokens text) none = "^" ++ quote text ++ "$" := by
  rw [assemble_none, literalTokens_eq]
  split
  · next h => exact h ▸ rfl
  · simp [Token.fragment]

/-- What a text without placeholders is compiled to. -/
def literalPart (text : String) : CompiledPart where
  tokens := literalTokens text
  regex := "^" ++ quote text ++ "$"

theorem staticPrefix_literalPart (text : String) : (literalPart text).staticPrefix = text := by
  by_cases h : text = ""
  · subst h
    rfl
  · rw [CompiledPart.staticPrefix, literalPart, literalTokens_eq, if_neg h]

/-- **A text without placeholders is compiled to the quoted text.** -/
theorem compilePart_of_isLiteral (h : IsLiteral part text) :
    compilePart part overrides optional text = .ok (literalPart text) := by
  have hnames : variableNames text = .ok [] := by
    have hunmarked := part.slotNames_unmarked text
    rw [unmarked_of_isLiteral h, isLiteral_iff_names.1 h] at hunmarked
    rw [variableNames, hunmarked, collectNames]
  rw [compilePart_of_variableNames hnames, tokens_of_isLiteral h, firstOptional_literalTokens,
    assemble_literalTokens, literalPart]

theorem compilePath_of_isLiteral (h : IsLiteral .path path) :
    compilePath overrides path = .ok (literalPart path) := by
  rw [compilePath, show withoutMarks path = path from unmarked_of_isLiteral h]
  exact compilePart_of_isLiteral h

theorem compileHost_of_isLiteral (h : IsLiteral .host host) (hne : host ≠ "") :
    compileHost overrides host = .ok (literalPart host) := by
  rw [compileHost, if_neg (by simpa using hne)]
  exact compilePart_of_isLiteral h

/-- **Literal text stands for itself.** A quoted text between the ends of the text matches this text alone, and
no two texts are quoted alike. A route whose path or host is free of placeholders is compiled to an expression
for this one path or host, and the path is its static prefix. -/
theorem compile_literal :
    (∀ s, MatchesOnly ("^" ++ quote s ++ "$") s) ∧ Function.Injective quote ∧
      ∀ overrides host path,
        (IsLiteral .path path → ∀ p, compileHost overrides host = .ok p →
          ∃ r, compileWith host path overrides = .ok r ∧ MatchesOnly r.pathRegex path ∧
            r.staticPrefix = path) ∧
        (IsLiteral .host host → host ≠ "" → ∀ p, compilePath overrides path = .ok p →
          ∃ r, compileWith host path overrides = .ok r ∧ MatchesOnly r.hostRegex host) := by
  refine ⟨matchesOnly_quote, quote_injective, fun overrides host path => ⟨?_, ?_⟩⟩
  · intro hliteral p hhost
    exact ⟨_, compileWith_of_parts hhost (compilePath_of_isLiteral hliteral), matchesOnly_quote path,
      staticPrefix_literalPart path⟩
  · intro hliteral hne p hpath
    exact ⟨_, compileWith_of_parts (compileHost_of_isLiteral hliteral hne) hpath, matchesOnly_quote host⟩

/-- Braces around something that is no name are literal as well. -/
theorem compile_literal_braces :
    ∃ r, compileWith "<a>.b-c" "/f(x)={x y}?" (fun _ => none) = .ok r ∧
      MatchesOnly r.hostRegex "<a>.b-c" ∧ MatchesOnly r.pathRegex "/f(x)={x y}?" ∧
      r.staticPrefix = "/f(x)={x y}?" := by
  obtain ⟨-, -, hliteral⟩ := compile_literal
  obtain ⟨hpath, hhost⟩ := hliteral (fun _ => none) "<a>.b-c" "/f(x)={x y}?"
  have hpathLiteral : IsLiteral .path "/f(x)={x y}?" := by decide +kernel
  have hhostLiteral : IsLiteral .host "<a>.b-c" := by decide +kernel
  obtain ⟨r, hr, hregex, hprefix⟩ := hpath hpathLiteral _ (compileHost_of_isLiteral hhostLiteral (by decide))
  obtain ⟨r', hr', hregex'⟩ := hhost hhostLiteral (by decide) _ (compilePath_of_isLiteral hpathLiteral)
  obtain rfl := Except.ok.inj (hr.symm.trans hr')
  exact ⟨r, hr, hregex', hregex, hprefix⟩

end RoutePatterns
