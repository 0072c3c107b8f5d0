import RoutePatterns.Proofs.Route.Printed

/-!
# The separator that comes next

The constraint of a variable is derived from what follows its placeholder in the text, before the rest of
the text is cut into tokens. It can be read off the finished tokens as well (`Token.nextSeparator`): the
variables without a separator that follow directly are passed over, and the next token begins with the
character that counts. `derived_of_compile` says that the constraints of a compiled route are the ones
derived in this way, and that looking ahead in the text gives the same separator.

Every variable stands where its placeholder stands in the pieces (`exists_slot_of_tokensAfter`), and the
rest of the pieces gives the rest of the tokens, so the two are compared for one list of pieces
(`nextSeparator_tokensAfter`).
-/

namespace RoutePatterns

/-- The separator that comes next in a list of tokens: after variables without a separator, the first
character of a token, if it is a separator. -/
def Token.nextSeparator : List Token → Option Char
  | [] => none
  | .text content :: _ => content.toList.head?.filter isSeparator
  | .var none _ _ :: tokens => nextSeparator tokens
  | .var (some separator) _ _ :: _ => (some separator).filter isSeparator

/-- The constraints of the variables in a list of tokens are derived from the tokens after them, and from
the separator `default` of the part. -/
structure Derived (default : Char) (overrides : Lookup) (tokens : List Token) : Prop where
  /-- A constraint is an override, or else the default one for the tokens that follow. -/
  constraint_eq : ∀ before separator constraint name after,
    tokens = before ++ .var separator constraint name :: after →
      constraint = (overrides name).getD (defaultConstraint default (Token.nextSeparator after))
  /-- The same separator is found in the text that follows. -/
  nextSeparatorIn_eq : ∀ before separator constraint name after,
    tokens = before ++ .var separator constraint name :: after →
      nextSeparatorIn (Token.printAll [] after) = Token.nextSeparator after

variable {part : Part} {overrides : Lookup} {tokens before after : List Token}
  {separator : Option Char} {constraint name host path : String} {r : Route} {default : Char}
  {token : Token}

theorem Token.isSeparator_nextSeparator (tokens : List Token) :
    ∀ c ∈ nextSeparator tokens, isSeparator c = true := by
  intro c hc
  induction tokens with
  | nil => cases hc
  | cons token tokens ih =>
    cases token with
    | text content => exact (Option.filter_eq_some_iff.1 hc).2
    | var separator constraint name =>
      cases separator with
      | none => exact ih hc
      | some separator => exact (Option.filter_eq_some_iff.1 hc).2

theorem Derived.tail (h : Derived default overrides (token :: tokens)) :
    Derived default overrides tokens where
  constraint_eq before separator constraint name after htokens :=
    h.constraint_eq (token :: before) separator constraint name after (htokens ▸ rfl)
  nextSeparatorIn_eq before separator constraint name after htokens :=
    h.nextSeparatorIn_eq (token :: before) separator constraint name after (htokens ▸ rfl)

/-! ### Variables and their placeholders -/

/-- A variable does not stand in the text before other tokens. -/
theorem exists_append_of_textToken_append {reversed : List Char}
    (h : textToken reversed ++ tokens = before ++ .var separator constraint name :: after) :
    ∃ between, tokens = between ++ .var separator constraint name :: after := by
  rw [textToken] at h
  split at h
  · exact ⟨before, h⟩
  · cases before with
    | nil => cases h
    | cons token before => exact ⟨before, (List.cons.inj h).2⟩

/-- **A variable stands where its placeholder stands**, and the tokens after it are those of the pieces after
the placeholder. -/
theorem exists_slot_of_tokensAfter {reversed : List Char} {pieces : List Piece}
    (h : tokensAfter part overrides reversed pieces =
      before ++ .var separator constraint name :: after) :
    ∃ front following, pieces = front ++ .slot name :: following ∧
      constraint = constraintFor part overrides name following ∧
      after = tokensAfter part overrides [] following := by
  induction pieces generalizing reversed before with
  | nil =>
    rw [tokensAfter, ← List.append_nil (textToken reversed)] at h
    obtain ⟨between, hnil⟩ := exists_append_of_textToken_append h
    cases between <;> cases hnil
  | cons piece pieces ih =>
    cases piece with
    | char c =>
      obtain ⟨front, following, rfl, hrest⟩ := ih h
      exact ⟨.char c :: front, following, rfl, hrest⟩
    | slot other =>
      obtain ⟨between, hbetween⟩ := exists_append_of_textToken_append h
      cases between with
      | nil =>
        obtain ⟨hvar, rfl⟩ := List.cons.inj hbetween
        obtain ⟨-, rfl, rfl⟩ := Token.var.inj hvar
        exact ⟨[], pieces, rfl, rfl, rfl⟩
      | cons token between =>
        obtain ⟨front, following, rfl, hrest⟩ := ih (List.cons.inj hbetween).2
        exact ⟨.slot other :: front, following, rfl, hrest⟩

/-! ### Looking ahead -/

theorem nextSeparator_of_head? {c : Char} (h : tokens.head?.bind Token.first? = some c) :
    Token.nextSeparator tokens = (some c).filter isSeparator := by
  cases tokens with
  | nil => cases h
  | cons token tokens =>
    cases token with
    | text content =>
      have hfirst : content.toList.head? = some c := h
      rw [Token.nextSeparator, hfirst]
    | var separator constraint name =>
      obtain rfl : separator = some c := h
      rfl

/-- **The tokens of a text go on with the separator that is found in its pieces.** -/
theorem nextSeparator_tokensAfter (part : Part) (overrides : Lookup) (pieces : List Piece) :
    Token.nextSeparator (tokensAfter part overrides [] pieces) = nextSeparator pieces := by
  induction pieces with
  | nil => rfl
  | cons piece pieces ih =>
    cases piece with
    | char c =>
      rw [tokensAfter]
      exact nextSeparator_of_head? (first?_tokensAfter (List.cons_ne_nil c []))
    | slot name => exact ih

/-- The tokens after a placeholder are written as the text after it, where the same pieces are seen. -/
theorem nextSeparatorIn_printAll {pieces : List Piece} (h : Proper .plain pieces) :
    nextSeparatorIn (Token.printAll [] (tokensAfter part overrides [] pieces)) =
      nextSeparator pieces := by
  have hpieces : (tokensAfter part overrides [] pieces).flatMap Token.pieces = pieces :=
    flatMap_pieces_tokensAfter part overrides [] pieces
  rw [nextSeparatorIn, scan_printAll (by rwa [hpieces]), hpieces]

theorem derived_tokens (part : Part) (overrides : Lookup) (pattern : String) :
    Derived part.separator overrides (RoutePatterns.tokens part overrides pattern) := by
  constructor
  · intro before separator constraint name after h
    obtain ⟨front, following, -, rfl, rfl⟩ := exists_slot_of_tokensAfter h
    rw [constraintFor, nextSeparator_tokensAfter]
  · intro before separator constraint name after h
    obtain ⟨front, following, hpieces, -, rfl⟩ := exists_slot_of_tokensAfter h
    have hproper := proper_scan .plain pattern
    rw [hpieces] at hproper
    obtain _ | _ | ⟨-, hfollowing⟩ := hproper.of_append
    rw [nextSeparatorIn_printAll hfollowing, nextSeparator_tokensAfter]

theorem derived_of_compileHost {p : CompiledPart} (h : compileHost overrides host = .ok p) :
    Derived Part.host.separator overrides p.tokens := by
  rw [tokens_of_compileHost h]
  exact derived_tokens .host overrides host

theorem derived_of_compilePath {p : CompiledPart} (h : compilePath overrides path = .ok p) :
    Derived Part.path.separator overrides p.tokens := by
  rw [tokens_of_compilePath h]
  exact derived_tokens .path overrides _

/-- **The constraints of a compiled route are derived from its finished tokens**, for the host and for the
path. -/
theorem derived_of_compile (h : compileWith host path overrides = .ok r) :
    Derived '.' overrides r.hostTokens ∧ Derived '/' overrides r.pathTokens := by
  obtain ⟨p, p', hhost, hpath, rfl⟩ := compileWith_eq_ok h
  exact ⟨derived_of_compileHost hhost, derived_of_compilePath hpath⟩

/-- The constraint of `title` excludes the dash that the next variable takes along. -/
theorem derived_of_compile_wiki :
    Derived '/' wikiPattern.overrides.get? wikiRoute.pathTokens ∧
      Token.nextSeparator [.var (some '-') "[0-9]+" "rev", .text ".raw{}",
        .var (some '/') "[^/]+" "format"] = some '-' ∧
      defaultConstraint '/' (some '-') = "[^/\\-]+" := by
  obtain ⟨-, hpath⟩ := derived_of_compile compile_wikiPattern
  exact ⟨hpath, by decide, by decide +kernel⟩

end RoutePatterns
