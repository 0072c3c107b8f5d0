import Mathlib.Data.List.Chain
import RoutePatterns.Proofs.Pattern.Constraint
import RoutePatterns.Route.Compile

/-!
# The tokens of a compiled text

What holds of the tokens that a text is compiled to: the names of the variables are those of the
placeholders (`names_tokens`), no two are equal (`of_collectNames`), and a name of ASCII is a name
of groups (`isGroupName_of_isAsciiWord`). Every constraint is an override or a default one
(`isConstrained_of_mem_tokens`). A default one excludes the character that follows, so without overrides
values can be read back where variables are kept apart by separators (`delimited_tokens`).
-/

namespace RoutePatterns

variable {part : Part} {overrides : Lookup} {reversed : List Char} {pieces : List Piece}
  {pattern : String}

/-! ### Names -/

theorem names_textToken (reversed : List Char) : Token.names (textToken reversed) = [] := by
  rw [textToken]
  split <;> rfl

theorem names_cons (token : Token) (tokens : List Token) :
    Token.names (token :: tokens) = token.name?.toList ++ Token.names tokens := by
  cases token <;> rfl

theorem names_append (tokens tokens' : List Token) :
    Token.names (tokens ++ tokens') = Token.names tokens ++ Token.names tokens' :=
  List.filterMap_append

theorem names_tokensAfter (part : Part) (overrides : Lookup) (reversed : List Char)
    (pieces : List Piece) :
    Token.names (tokensAfter part overrides reversed pieces) = pieces.filterMap Piece.name? := by
  induction pieces generalizing reversed with
  | nil => exact names_textToken reversed
  | cons piece pieces ih =>
    cases piece with
    | char c => exact ih (c :: reversed)
    | slot name =>
      rw [tokensAfter, names_append, names_textToken, List.nil_append]
      exact congrArg (name :: ·) (ih [])

/-- The variables are named after the placeholders. -/
theorem names_tokens (part : Part) (overrides : Lookup) (pattern : String) :
    Token.names (tokens part overrides pattern) = slotNames .plain pattern :=
  names_tokensAfter part overrides [] _

section

variable {name : String} {found names collected : List String}

/-- A name that is collected is allowed after those that were found before. -/
theorem of_collectNames_cons (h : collectNames pattern found (name :: names) = .ok collected) :
    hasLeadingDigit name = false ∧ name ∉ found ∧
      collectNames pattern (found ++ [name]) names = .ok collected := by
  rw [collectNames] at h
  split at h
  · cases h
  · next hdigit =>
    split at h
    · cases h
    · next hnew =>
      split at h
      · cases h
      · exact ⟨by simpa using hdigit, hnew, h⟩

/-- What is collected are the names, after those that were found before. -/
theorem eq_append_of_collectNames (h : collectNames pattern found names = .ok collected) :
    collected = found ++ names := by
  induction names generalizing found with
  | nil => rw [List.append_nil, ← Except.ok.inj h]
  | cons name names ih =>
    obtain ⟨-, -, hrest⟩ := of_collectNames_cons h
    rw [ih hrest, List.append_assoc, List.singleton_append]

/-- No name is collected twice, and none begins with a digit. -/
theorem of_collectNames (hnodup : found.Nodup) (h : collectNames pattern found names = .ok collected) :
    collected.Nodup ∧ ∀ name ∈ names, hasLeadingDigit name = false := by
  induction names generalizing found with
  | nil => exact ⟨Except.ok.inj h ▸ hnodup, fun name hname => by cases hname⟩
  | cons name names ih =>
    obtain ⟨hdigit, hnew, hrest⟩ := of_collectNames_cons h
    have hfound : (found ++ [name]).Nodup :=
      (List.perm_append_singleton name found).nodup_iff.2 (List.nodup_cons.2 ⟨hnew, hnodup⟩)
    obtain ⟨hcollected, hnames⟩ := ih hfound hrest
    exact ⟨hcollected, List.forall_mem_cons.2 ⟨hdigit, hnames⟩⟩

/-- The names that are collected are those of the placeholders. -/
theorem of_variableNames (h : variableNames pattern = .ok names) :
    names = slotNames .plain pattern ∧ names.Nodup ∧
      ∀ name ∈ slotNames .plain pattern, hasLeadingDigit name = false :=
  ⟨eq_append_of_collectNames h, of_collectNames List.nodup_nil h⟩

end

theorem toNat_lt_of_isAsciiWord {c : Char} (h : Unicode.isAsciiWord c = true) : c.toNat < 128 := by
  rw [Unicode.isAsciiWord, Bool.or_eq_true, beq_iff_eq] at h
  have hupper (h : c.isUpper = true) : c.val ≤ 'Z'.val := (of_decide_eq_true h).2
  have hlower (h : c.isLower = true) : c.val ≤ 'z'.val := of_decide_eq_true (Bool.and_eq_true_iff.1 h).2
  have hdigit (h : c.isDigit = true) : c.val ≤ '9'.val := of_decide_eq_true (Bool.and_eq_true_iff.1 h).2
  rcases h with h | rfl
  · rcases Bool.or_eq_true_iff.1 h with h | h
    · rcases Bool.or_eq_true_iff.1 h with h | h
      · exact Nat.lt_of_le_of_lt (hupper h) (by decide)
      · exact Nat.lt_of_le_of_lt (hlower h) (by decide)
    · exact Nat.lt_of_le_of_lt (hdigit h) (by decide)
  · decide

theorem isNameRest_of_isAsciiWord {c : Char} (h : Unicode.isAsciiWord c = true) :
    Regex.isNameRest c = true := by
  have hlt := toNat_lt_of_isAsciiWord h
  simp only [Unicode.isAsciiWord, Char.isAlphanum, Bool.or_eq_true] at h
  simp only [Regex.isNameRest, Unicode.isAlphanumeric, Unicode.isAlphabetic, Unicode.isDecimal,
    if_pos hlt, Bool.or_eq_true]
  tauto

theorem isNameStart_of_isAsciiWord {c : Char} (h : Unicode.isAsciiWord c = true)
    (hdigit : c.isDigit = false) : Regex.isNameStart c = true := by
  have hlt := toNat_lt_of_isAsciiWord h
  simp only [Unicode.isAsciiWord, Char.isAlphanum, Bool.or_eq_true, hdigit, Bool.false_eq_true,
    or_false] at h
  simp only [Regex.isNameStart, Unicode.isAlphabetic, if_pos hlt, Bool.or_eq_true]
  exact h.symm

/-- A name of letters, digits and underscores of ASCII that does not begin with a digit can be the name
of a group. -/
theorem isGroupName_of_isAsciiWord {name : String} (hne : name.toList ≠ [])
    (hdigit : hasLeadingDigit name = false)
    (hascii : ∀ c ∈ name.toList, Unicode.isAsciiWord c = true) : Regex.IsGroupName name := by
  obtain ⟨c, cs, hcs⟩ := List.exists_cons_of_ne_nil hne
  have hkeep : ∀ d ∈ name.toList, (d != '>') = true := by
    rintro d hd
    rw [bne_iff_ne]
    rintro rfl
    cases hascii _ hd
  have hrest : cs.all Regex.isNameRest = true :=
    List.all_eq_true.2 fun d hd => isNameRest_of_isAsciiWord
      (hascii d (hcs ▸ List.mem_cons_of_mem _ hd))
  have hstart : Regex.isNameStart c = true := by
    refine isNameStart_of_isAsciiWord (hascii c (hcs ▸ List.mem_cons_self)) ?_
    simpa [hasLeadingDigit, hcs] using hdigit
  have htake : (name.toList ++ ['>']).takeWhile (· != '>') = c :: cs := by
    rw [List.takeWhile_append_of_pos hkeep, hcs]
    simp
  have hdrop : (name.toList ++ ['>']).dropWhile (· != '>') = ['>'] := by
    rw [List.dropWhile_append_of_pos hkeep]
    simp
  rw [Regex.IsGroupName, Regex.groupName?, htake, hdrop]
  simp only [hstart, hrest, Bool.and_self, if_true, ← hcs, String.ofList_toList]

/-! ### Constraints -/

namespace Token

/-- The constraint of a variable is the override of its name, or else one that the compiler derives. -/
def IsConstrained (part : Part) (overrides : Lookup) : Token → Prop
  | text _ => True
  | var _ constraint name => ∃ next, (∀ c ∈ next, isSeparator c = true) ∧
    constraint = (overrides name).getD (defaultConstraint part.separator next)

theorem IsConstrained.isDefault {token : Token} (h : token.IsConstrained part overrides)
    (hnone : ∀ name, overrides name = none) : token.IsDefault part := by
  cases token with
  | text content => trivial
  | var separator constraint name =>
    obtain ⟨next, hnext, rfl⟩ := h
    exact ⟨next, by rw [hnone, Option.getD_none], hnext⟩

end Token

/-- A token is a text, or the variable of a placeholder with the separator before it and the constraint for
what follows it. -/
theorem of_mem_tokensAfter {token : Token} (h : token ∈ tokensAfter part overrides reversed pieces) :
    (∃ content, token = .text content) ∨ ∃ before following name,
      token = .var (takenSeparator before) (constraintFor part overrides name following) name := by
  have htext {reversed : List Char} (h : token ∈ textToken reversed) :
      ∃ content, token = .text content := by
    rw [textToken] at h
    split at h
    · cases h
    · exact ⟨_, List.mem_singleton.1 h⟩
  induction pieces generalizing reversed with
  | nil => exact .inl (htext h)
  | cons piece pieces ih =>
    cases piece with
    | char c => exact ih h
    | slot name =>
      rw [tokensAfter, List.mem_append, List.mem_cons] at h
      rcases h with h | rfl | h
      · exact .inl (htext h)
      · exact .inr ⟨reversed, pieces, name, rfl⟩
      · exact ih h

/-- The tokens of a text fall into those before a placeholder, its variable, and those after it. -/
theorem exists_tokensAfter_append_slot (part : Part) (overrides : Lookup) (reversed : List Char)
    (pieces : List Piece) (name : String) (following : List Piece) :
    ∃ front separator,
      tokensAfter part overrides reversed (pieces ++ .slot name :: following) =
        front ++ .var separator (constraintFor part overrides name following) name ::
          tokensAfter part overrides [] following := by
  induction pieces generalizing reversed with
  | nil => exact ⟨_, _, rfl⟩
  | cons piece pieces ih =>
    cases piece with
    | char c => exact ih (c :: reversed)
    | slot other =>
      obtain ⟨front, separator, heq⟩ := ih []
      rw [List.cons_append, tokensAfter, heq]
      exact ⟨textToken (remainingText reversed) ++ _ :: front, separator,
        (List.append_assoc _ (_ :: front) _).symm⟩

theorem isSeparator_of_mem_nextSeparator {following : List Piece} :
    ∀ c ∈ nextSeparator following, isSeparator c = true :=
  fun _ hc => (Option.filter_eq_some_iff.1 hc).2

/-- Every constraint is an override or a default one. -/
theorem isConstrained_of_mem_tokens :
    ∀ token ∈ tokens part overrides pattern, token.IsConstrained part overrides := by
  intro token htoken
  rcases of_mem_tokensAfter htoken with ⟨content, rfl⟩ | ⟨before, following, name, rfl⟩
  · trivial
  · exact ⟨nextSeparator following, isSeparator_of_mem_nextSeparator, rfl⟩

/-! ### Separators -/

namespace Token

/-- A token that begins with a separator: a variable with its separator, or a text whose first character
is one. -/
def beginsWithSeparator : Token → Bool
  | text content => content.toList.head?.any isSeparator
  | var separator _ _ => separator.isSome

/-- Every variable is the last token, or directly followed by a token that begins with a separator. -/
def KeptApart (tokens : List Token) : Prop :=
  tokens.IsChain fun token next => token.name?.isSome → next.beginsWithSeparator

instance (tokens : List Token) : Decidable (KeptApart tokens) :=
  inferInstanceAs (Decidable (tokens.IsChain _))

end Token

theorem textToken_cons (c : Char) (cs : List Char) :
    textToken (c :: cs) = [.text (String.ofList (c :: cs).reverse)] := rfl

theorem first?_text (reversed : List Char) :
    (Token.text (String.ofList reversed.reverse)).first? = reversed.getLast? := by
  rw [Token.first?, String.toList_ofList, List.head?_reverse]

/-- After a text, the tokens go on with its first character. -/
theorem first?_tokensAfter (hne : reversed ≠ []) :
    (tokensAfter part overrides reversed pieces).head?.bind Token.first? = reversed.getLast? := by
  induction pieces generalizing reversed with
  | nil =>
    obtain ⟨c, cs, rfl⟩ := List.exists_cons_of_ne_nil hne
    rw [tokensAfter, textToken_cons]
    exact first?_text (c :: cs)
  | cons piece pieces ih =>
    obtain ⟨c, cs, rfl⟩ := List.exists_cons_of_ne_nil hne
    cases piece with
    | char d =>
      rw [tokensAfter, ih (List.cons_ne_nil _ _)]
      rfl
    | slot name =>
      rw [tokensAfter]
      -- The placeholder takes the last character of the text along if that is a separator.
      cases hseparator : isSeparator c with
      | false =>
        have hremaining : remainingText (c :: cs) = c :: cs := by
          simp [remainingText, takenSeparator, hseparator]
        rw [hremaining, textToken_cons]
        exact first?_text (c :: cs)
      | true =>
        have htaken : takenSeparator (c :: cs) = some c := by simp [takenSeparator, hseparator]
        have hremaining : remainingText (c :: cs) = cs := by simp [remainingText, htaken]
        rw [hremaining, htaken]
        cases cs with
        | nil => rfl
        | cons d cs =>
          rw [textToken_cons]
          exact first?_text (d :: cs)

/-- After a placeholder, a token that begins with a separator begins with the one that comes next. -/
theorem nextSeparator_of_first? {next : Token} {c : Char}
    (hnext : next ∈ (tokensAfter part overrides [] pieces).head?) (hfirst : next.first? = some c)
    (hc : isSeparator c = true) : nextSeparator pieces = some c := by
  cases pieces with
  | nil => cases hnext
  | cons piece pieces =>
    cases piece with
    | slot name =>
      obtain rfl := Option.some.inj hnext
      cases hfirst
    | char d =>
      have h := @first?_tokensAfter part overrides [d] pieces (List.cons_ne_nil d [])
      rw [tokensAfter] at hnext
      rw [Option.mem_def.1 hnext, Option.bind_some, hfirst] at h
      obtain rfl : c = d := Option.some.inj h
      exact Option.filter_eq_some_iff.2 ⟨rfl, hc⟩

theorem delimited_append_textToken {accepts : String → String → Prop} {tokens : List Token}
    (h : Delimited accepts tokens) : Delimited accepts (textToken reversed ++ tokens) := by
  rw [textToken]
  split
  · exact h
  · exact h

/-- A separator that a variable takes along is one. -/
theorem separator_of_mem_tokensAfter {separator : Option Char} {constraint name : String}
    (h : .var separator constraint name ∈ tokensAfter part overrides reversed pieces) :
    ∀ c ∈ separator, isSeparator c = true := by
  rcases of_mem_tokensAfter h with ⟨content, heq⟩ | ⟨before, following, other, heq⟩
  · cases heq
  · obtain ⟨rfl, -, -⟩ := Token.var.inj heq
    exact fun c hc => (Option.filter_eq_some_iff.1 hc).2

theorem exists_first?_of_beginsWithSeparator {token : Token}
    (hseparator : ∀ separator constraint name, token = .var separator constraint name →
      ∀ c ∈ separator, isSeparator c = true) (h : token.beginsWithSeparator = true) :
    ∃ c, token.first? = some c ∧ isSeparator c = true := by
  cases token with
  | text content =>
    obtain ⟨c, hc, hsep⟩ := (Option.any_eq_true _ _).1 h
    exact ⟨c, hc, hsep⟩
  | var separator constraint name =>
    obtain ⟨c, rfl⟩ := Option.isSome_iff_exists.1 h
    exact ⟨c, rfl, hseparator _ _ _ rfl c rfl⟩

theorem delimited_tokensAfter (hnone : ∀ name, overrides name = none)
    (h : Token.KeptApart (tokensAfter part overrides reversed pieces)) :
    Delimited Satisfies (tokensAfter part overrides reversed pieces) := by
  induction pieces generalizing reversed with
  | nil =>
    have htext : Delimited Satisfies (textToken reversed ++ []) := delimited_append_textToken trivial
    rwa [List.append_nil] at htext
  | cons piece pieces ih =>
    cases piece with
    | char c => exact ih h
    | slot name =>
      rw [tokensAfter] at h ⊢
      refine delimited_append_textToken ?_
      have hchain := List.IsChain.right_of_append h
      have hdefault {value : String} := @satisfies_defaultConstraint_iff value part _
        (@isSeparator_of_mem_nextSeparator pieces)
      -- The constraint excludes the separator that the next token begins with.
      rw [Delimited, constraintFor, hnone, Option.getD_none]
      refine ⟨fun value hvalue => (hdefault.1 hvalue).1, fun next hnext => ?_, ih hchain.tail⟩
      obtain ⟨rest, hrest⟩ := List.head?_eq_some_iff.1 (Option.mem_def.1 hnext)
      have hmem : next ∈ tokensAfter part overrides [] pieces := hrest ▸ List.mem_cons_self
      have hbegins : next.beginsWithSeparator = true := by
        rw [hrest] at hchain
        exact (List.isChain_cons_cons.1 hchain).1 rfl
      obtain ⟨c, hfirst, hc⟩ := exists_first?_of_beginsWithSeparator
        (fun _ _ _ heq => separator_of_mem_tokensAfter (heq ▸ hmem)) hbegins
      refine ⟨c, hfirst, fun value hvalue hmem => ?_⟩
      exact ((hdefault.1 hvalue).2 c hmem).2 (nextSeparator_of_first? hnext hfirst hc)

/-- **Where variables are kept apart, no value contains the character that follows it.** -/
theorem delimited_tokens (hnone : ∀ name, overrides name = none)
    (h : Token.KeptApart (tokens part overrides pattern)) :
    Delimited Satisfies (tokens part overrides pattern) :=
  delimited_tokensAfter hnone h

end RoutePatterns
