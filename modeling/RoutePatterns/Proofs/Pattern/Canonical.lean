import Mathlib.Data.List.Chain
import RoutePatterns.Proofs.Pattern.Scan
import RoutePatterns.Proofs.Pattern.Tokens

/-!
# Canonical lists of tokens

Tokens are written back as the text that they were read from (`flatMap_pieces_tokensAfter`,
`toList_printAll`). A text could be written by many lists of tokens: a separator may belong to the text
before a variable or to the variable, a text may be cut in two, and a text may hold a placeholder that is
no variable. `Canonical` rules these out. The tokens of a text are canonical (`canonical_tokensAfter`), and
a canonical list is read back from the text that it writes, up to its constraints
(`bare_tokensAfter_pieces`), so there is only one for each text.
-/

namespace RoutePatterns

/-- A text contains a placeholder. -/
def HasSlot (s : String) : Prop :=
  ∃ before name after, IsSlotName name ∧
    s.toList = before ++ '\x7b' :: (name.toList ++ '\x7d' :: after)

namespace Token

/-- A token without its constraint. -/
def bare : Token → Token
  | text content => text content
  | var separator _ name => var separator "" name

/-- The pieces that a token is written as. -/
def pieces : Token → List Piece
  | text content => content.toList.map .char
  | var separator _ name => separator.toList.map .char ++ [.slot name]

/-- No text is empty, follows another text or contains a placeholder, and a separator before a variable
always belongs to the variable. -/
structure Canonical (tokens : List Token) : Prop where
  ne_empty : ∀ content, .text content ∈ tokens → content ≠ ""
  not_hasSlot : ∀ content, .text content ∈ tokens → ¬ HasSlot content
  is_separator : ∀ separator constraint name, .var (some separator) constraint name ∈ tokens →
    isSeparator separator = true
  not_adjacent : tokens.IsChain fun token next => token.name?.isSome ∨ next.name?.isSome
  taken : tokens.IsChain fun token next => ∀ content constraint name, token = .text content →
    next = .var none constraint name → ∀ c ∈ content.toList.getLast?, isSeparator c = false

end Token

open Token

variable {part : Part} {overrides : Lookup} {tokens : List Token} {reversed : List Char}
  {pieces : List Piece} {separator : Option Char} {constraint name content : String}

/-! ### Canonical lists, token by token -/

theorem canonical_nil : Canonical [] := by
  constructor
  · intro content hmem
    cases hmem
  · intro content hmem
    cases hmem
  · intro separator constraint name hmem
    cases hmem
  · exact .nil
  · exact .nil

theorem canonical_var_cons :
    Canonical (.var separator constraint name :: tokens) ↔
      (∀ c ∈ separator, isSeparator c = true) ∧ Canonical tokens := by
  constructor
  · intro h
    refine ⟨?_, fun content hmem => h.ne_empty content (List.mem_cons_of_mem _ hmem),
      fun content hmem => h.not_hasSlot content (List.mem_cons_of_mem _ hmem),
      fun s c n hmem => h.is_separator s c n (List.mem_cons_of_mem _ hmem), h.not_adjacent.tail,
      h.taken.tail⟩
    rintro c rfl
    exact h.is_separator c constraint name List.mem_cons_self
  · rintro ⟨hseparator, h⟩
    constructor
    · intro content hmem
      exact h.ne_empty content (by simpa using hmem)
    · intro content hmem
      exact h.not_hasSlot content (by simpa using hmem)
    · intro s c n hmem
      rcases List.mem_cons.1 hmem with heq | hmem
      · obtain ⟨rfl, -, -⟩ := Token.var.inj heq
        exact hseparator s rfl
      · exact h.is_separator s c n hmem
    · exact List.isChain_cons.2 ⟨fun next _ => .inl rfl, h.not_adjacent⟩
    · exact List.isChain_cons.2 ⟨fun next _ _ _ _ heq => (by cases heq), h.taken⟩

/-- After a text comes nothing or a variable, with a separator of its own or after a character that is no
separator. -/
def Follows (content : String) (tokens : List Token) : Prop :=
  ∀ next ∈ tokens.head?, ∃ separator constraint name, next = .var separator constraint name ∧
    (separator = none → ∀ c ∈ content.toList.getLast?, isSeparator c = false)

theorem canonical_text_cons :
    Canonical (.text content :: tokens) ↔
      content ≠ "" ∧ ¬ HasSlot content ∧ Follows content tokens ∧ Canonical tokens := by
  constructor
  · intro h
    refine ⟨h.ne_empty content List.mem_cons_self, h.not_hasSlot content List.mem_cons_self, ?_,
      fun content hmem => h.ne_empty content (List.mem_cons_of_mem _ hmem),
      fun content hmem => h.not_hasSlot content (List.mem_cons_of_mem _ hmem),
      fun s c n hmem => h.is_separator s c n (List.mem_cons_of_mem _ hmem), h.not_adjacent.tail,
      h.taken.tail⟩
    intro next hnext
    have hadjacent := (List.isChain_cons.1 h.not_adjacent).1 next hnext
    have htaken := (List.isChain_cons.1 h.taken).1 next hnext
    cases next with
    | text other => simp [Token.name?] at hadjacent
    | var separator constraint name =>
      refine ⟨separator, constraint, name, rfl, ?_⟩
      rintro rfl
      exact htaken content constraint name rfl rfl
  · rintro ⟨hne, hslot, hfollows, h⟩
    constructor
    · intro other hmem
      rcases List.mem_cons.1 hmem with heq | hmem
      · obtain rfl := Token.text.inj heq
        exact hne
      · exact h.ne_empty other hmem
    · intro other hmem
      rcases List.mem_cons.1 hmem with heq | hmem
      · obtain rfl := Token.text.inj heq
        exact hslot
      · exact h.not_hasSlot other hmem
    · intro s c n hmem
      exact h.is_separator s c n (by simpa using hmem)
    · refine List.isChain_cons.2 ⟨fun next hnext => ?_, h.not_adjacent⟩
      obtain ⟨separator, constraint, name, rfl, -⟩ := hfollows next hnext
      exact .inr rfl
    · refine List.isChain_cons.2 ⟨fun next hnext => ?_, h.taken⟩
      rintro other c n heq rfl
      obtain rfl := Token.text.inj heq
      obtain ⟨separator, constraint, name, heq, hlast⟩ := hfollows _ hnext
      obtain ⟨rfl, -, -⟩ := Token.var.inj heq
      exact hlast rfl

/-! ### Tokens that are written -/

/-- The ending with which a placeholder is written if the variables of `optional` are marked. -/
def endingOf (optional : List String) (name : String) : SlotEnd :=
  if name ∈ optional then .optional else .plain

theorem written_endingOf_nil : Piece.written (endingOf []) = Piece.text := by
  funext piece
  cases piece <;> rfl

theorem toList_printAll (optional : List String) (tokens : List Token) :
    (printAll optional tokens).toList =
      (tokens.flatMap Token.pieces).flatMap (Piece.written (endingOf optional)) := by
  induction tokens with
  | nil => rfl
  | cons token tokens ih =>
    rw [printAll, List.map_cons, String.join_cons, String.toList_append, ← printAll, ih,
      List.flatMap_cons, List.flatMap_append]
    cases token with
    | text content => rw [Token.pieces, Piece.flatMap_written_map_char, Token.print]
    | var separator constraint name =>
      rw [Token.pieces, List.flatMap_append, Piece.flatMap_written_map_char, Token.print,
        String.toList_ofList]
      by_cases hname : name ∈ optional <;> simp [Piece.written, endingOf, hname, SlotEnd.chars]

theorem flatMap_pieces_textToken (reversed : List Char) :
    (textToken reversed).flatMap Token.pieces = reversed.reverse.map Piece.char := by
  cases reversed with
  | nil => rfl
  | cons c cs => simp [textToken, Token.pieces]

/-- What is left of the text before a placeholder, and the separator that the placeholder takes. -/
theorem remainingText_reverse_append (reversed : List Char) :
    (remainingText reversed).reverse ++ (takenSeparator reversed).toList = reversed.reverse := by
  cases reversed with
  | nil => rfl
  | cons c cs =>
    by_cases hc : isSeparator c = true
    · simp [remainingText, takenSeparator, hc]
    · simp [remainingText, takenSeparator, hc]

/-- **Tokens are written as the pieces that they were read from.** -/
theorem flatMap_pieces_tokensAfter (part : Part) (overrides : Lookup) (reversed : List Char)
    (pieces : List Piece) :
    (tokensAfter part overrides reversed pieces).flatMap Token.pieces =
      reversed.reverse.map Piece.char ++ pieces := by
  induction pieces generalizing reversed with
  | nil => rw [tokensAfter, flatMap_pieces_textToken, List.append_nil]
  | cons piece pieces ih =>
    cases piece with
    | char c => simp [tokensAfter, ih]
    | slot name =>
      rw [tokensAfter, List.flatMap_append, List.flatMap_cons, flatMap_pieces_textToken, ih,
        Token.pieces, ← remainingText_reverse_append reversed]
      simp

/-! ### The tokens of a text are canonical -/

theorem Proper.of_append {ending : SlotEnd} {pieces pieces' : List Piece}
    (h : Proper ending (pieces ++ pieces')) : Proper ending pieces' := by
  induction pieces with
  | nil => exact h
  | cons piece pieces ih =>
    cases h with
    | char _ h => exact ih h
    | slot _ h => exact ih h

/-- Characters between placeholders contain no placeholder. -/
theorem not_hasSlot_of_proper (h : Proper .plain (content.toList.map Piece.char ++ pieces)) :
    ¬ HasSlot content := by
  rintro ⟨before, name, after, hname, heq⟩
  rw [heq, List.map_append, List.append_assoc] at h
  have hbrace := h.of_append
  rw [List.map_cons, List.cons_append] at hbrace
  -- The placeholder would have been seen at its opening brace.
  obtain _ | ⟨hnone, -⟩ := hbrace
  rw [List.flatMap_append, Piece.flatMap_text_map_char, List.append_assoc] at hnone
  have hsome := slotName?_slot hname .plain (after ++ pieces.flatMap Piece.text)
  rw [SlotEnd.chars, List.singleton_append] at hsome
  rw [List.cons_append, hsome] at hnone
  cases hnone

theorem canonical_textToken_append
    (hproper : Proper .plain (reversed.reverse.map Piece.char ++ pieces))
    (hfollows : Follows (String.ofList reversed.reverse) tokens) (h : Canonical tokens) :
    Canonical (textToken reversed ++ tokens) := by
  cases reversed with
  | nil => exact h
  | cons c cs =>
    have htext : textToken (c :: cs) = [.text (String.ofList (c :: cs).reverse)] := rfl
    rw [htext, List.singleton_append, canonical_text_cons]
    refine ⟨by simp, ?_, hfollows, h⟩
    rw [← String.toList_ofList (l := (c :: cs).reverse)] at hproper
    exact not_hasSlot_of_proper hproper

/-- The text before a variable that takes no separator does not end in one. -/
theorem follows_remainingText (reversed : List Char) (constraint name : String) (tokens : List Token) :
    Follows (String.ofList (remainingText reversed).reverse)
      (.var (takenSeparator reversed) constraint name :: tokens) := by
  intro next hnext
  obtain rfl := Option.some.inj hnext
  refine ⟨_, _, _, rfl, fun hnone => ?_⟩
  have hremaining : remainingText reversed = reversed := by simp [remainingText, hnone]
  rw [hremaining, String.toList_ofList, List.getLast?_reverse]
  intro c hc
  simpa using Option.filter_eq_none_iff.1 hnone c hc

/-- **The tokens of a text are canonical.** -/
theorem canonical_tokensAfter (part : Part) (overrides : Lookup)
    (h : Proper .plain (reversed.reverse.map Piece.char ++ pieces)) :
    Canonical (tokensAfter part overrides reversed pieces) := by
  induction pieces generalizing reversed with
  | nil =>
    rw [tokensAfter, ← List.append_nil (textToken reversed)]
    exact canonical_textToken_append h (fun next hnext => by cases hnext) canonical_nil
  | cons piece pieces ih =>
    cases piece with
    | char c =>
      rw [tokensAfter]
      apply ih
      simpa using h
    | slot name =>
      rw [tokensAfter]
      rw [← remainingText_reverse_append reversed, List.map_append, List.append_assoc] at h
      refine canonical_textToken_append h (follows_remainingText _ _ _ _) ?_
      refine canonical_var_cons.2 ⟨fun c hc => (Option.filter_eq_some_iff.1 hc).2, ih ?_⟩
      cases h.of_append.of_append with
      | slot _ h => exact h

/-! ### A canonical list is read back -/

theorem proper_map_char {cs : List Char}
    (h : ∀ before c after, cs = before ++ c :: after →
      slotName? .plain (c :: (after ++ pieces.flatMap Piece.text)) = none)
    (hpieces : Proper .plain pieces) : Proper .plain (cs.map Piece.char ++ pieces) := by
  induction cs with
  | nil => exact hpieces
  | cons c cs ih =>
    have hnone : slotName? .plain (c :: (cs.map Piece.char ++ pieces).flatMap Piece.text) = none := by
      rw [List.flatMap_append, Piece.flatMap_text_map_char]
      exact h [] c cs rfl
    refine .char hnone (ih ?_)
    intro before d after heq
    refine h (c :: before) d after ?_
    rw [heq, List.cons_append]

/-- A separator is no brace. -/
theorem ne_brace_of_isSeparator {c : Char} (h : isSeparator c = true) : c ≠ '\x7b' ∧ c ≠ '\x7d' := by
  constructor
  · rintro rfl
    cases h
  · rintro rfl
    cases h

/-- After a text, a token that takes a separator along begins with the separator and a brace. -/
theorem takeWhile_flatMap_text (hseparator : ∀ c ∈ separator, isSeparator c = true)
    (constraint name : String) (tokens : List Token) :
    (((Token.var separator constraint name :: tokens).flatMap Token.pieces).flatMap
      Piece.text).takeWhile (fun c => c != '\x7b') = separator.toList := by
  cases separator with
  | none => simp [Token.pieces, Piece.text]
  | some s =>
    have hs := (ne_brace_of_isSeparator (hseparator s rfl)).1
    simp [Token.pieces, Piece.text, hs]

/-- Characters without a placeholder begin none, if nothing but a separator comes before the next
brace. -/
theorem slotName?_append_of_not_hasSlot {before after rest : List Char} {c : Char}
    (hslot : ¬ HasSlot content) (hcontent : content.toList = before ++ c :: after)
    (hrest : ∀ d ∈ rest.takeWhile (fun c => c != '\x7b'), d ≠ '\x7d') :
    slotName? .plain (c :: (after ++ rest)) = none := by
  have hcongr : slotName? .plain (c :: (after ++ rest)) =
      slotName? .plain (c :: (after ++ rest.takeWhile fun c => c != '\x7b')) := by
    have htake : (rest.takeWhile fun c => c != '\x7b').takeWhile (fun c => c != '\x7b') =
        rest.takeWhile fun c => c != '\x7b' := by
      rw [List.takeWhile_eq_self_iff]
      intro d hd
      have hkept := List.mem_takeWhile_imp hd
      exact hkept
    apply slotName?_congr
    rw [List.takeWhile_append, List.takeWhile_append, htake]
  rw [hcongr]
  cases h : slotName? .plain (c :: (after ++ rest.takeWhile fun c => c != '\x7b')) with
  | none => rfl
  | some name =>
    obtain ⟨hne, hname, tail, hslotted⟩ := slotName?_eq_some_iff.1 h
    obtain ⟨rfl, heq⟩ := List.cons.inj hslotted
    rw [SlotEnd.chars, List.singleton_append] at heq
    -- The closing brace is not in the rest, so all of the placeholder is in the text.
    rcases List.append_eq_append_iff.1 heq with ⟨middle, hmiddle, hrest'⟩ | ⟨middle, hmiddle, hrest'⟩
    · have hmem : '\x7d' ∈ rest.takeWhile fun c => c != '\x7b' := by
        rw [hrest']
        simp
      exact absurd rfl (hrest _ hmem)
    · cases middle with
      | nil =>
        have hmem : '\x7d' ∈ rest.takeWhile fun c => c != '\x7b' := by
          rw [← List.nil_append (rest.takeWhile _), ← hrest']
          simp
        exact absurd rfl (hrest _ hmem)
      | cons d middle =>
        obtain ⟨rfl, -⟩ := List.cons.inj hrest'
        refine absurd ⟨before, String.ofList name, middle, ?_, ?_⟩ hslot
        · simpa [IsSlotName] using ⟨hne, hname⟩
        · rw [hcontent, hmiddle, String.toList_ofList]

/-- The tokens of a canonical list are seen as what they are, when they are written. -/
theorem proper_flatMap_pieces (h : Canonical tokens)
    (hnames : ∀ name ∈ Token.names tokens, IsSlotName name) :
    Proper .plain (tokens.flatMap Token.pieces) := by
  induction tokens with
  | nil => exact .nil
  | cons token tokens ih =>
    rw [List.flatMap_cons]
    cases token with
    | var separator constraint name =>
      obtain ⟨hseparator, h⟩ := canonical_var_cons.1 h
      obtain ⟨hname, hnames⟩ := List.forall_mem_cons.1 hnames
      have hslot : Proper .plain (.slot name :: tokens.flatMap Token.pieces) :=
        .slot hname (ih h hnames)
      cases separator with
      | none => exact hslot
      | some s =>
        have hs : s ≠ '\x7b' := (ne_brace_of_isSeparator (hseparator s rfl)).1
        exact .char (slotName?_of_ne hs _) hslot
    | text content =>
      obtain ⟨-, hslot, hfollows, h⟩ := canonical_text_cons.1 h
      refine proper_map_char (fun before c after hcontent => ?_) (ih h hnames)
      refine slotName?_append_of_not_hasSlot hslot hcontent ?_
      cases tokens with
      | nil => exact fun d hd => by cases hd
      | cons next tokens =>
        obtain ⟨separator, constraint, name, rfl, -⟩ := hfollows next rfl
        have hseparator := (canonical_var_cons.1 h).1
        rw [takeWhile_flatMap_text hseparator]
        intro d hd
        exact (ne_brace_of_isSeparator (hseparator d (Option.mem_toList.1 hd))).2

theorem tokensAfter_map_char (cs : List Char) :
    tokensAfter part overrides reversed (cs.map Piece.char ++ pieces) =
      tokensAfter part overrides (cs.reverse ++ reversed) pieces := by
  induction cs generalizing reversed with
  | nil => rfl
  | cons c cs ih => simp [tokensAfter, ih]

/-- The separator that was written before a placeholder is taken again. -/
theorem takenSeparator_append {cs : List Char} (hseparator : ∀ c ∈ separator, isSeparator c = true)
    (hlast : separator = none → ∀ c ∈ cs.getLast?, isSeparator c = false) :
    takenSeparator (separator.toList.reverse ++ cs.reverse) = separator ∧
      remainingText (separator.toList.reverse ++ cs.reverse) = cs.reverse := by
  cases separator with
  | some s =>
    have hs := hseparator s rfl
    simp [takenSeparator, remainingText, hs]
  | none =>
    have htaken : takenSeparator cs.reverse = none := by
      rw [takenSeparator, List.head?_reverse, Option.filter_eq_none_iff]
      intro c hc
      simpa using hlast rfl c hc
    simp [htaken, remainingText]

theorem textToken_reverse (hne : content ≠ "") : textToken content.toList.reverse = [.text content] := by
  have hnil : content.toList.reverse ≠ [] := by simpa using hne
  obtain ⟨c, cs, hcs⟩ := List.exists_cons_of_ne_nil hnil
  rw [hcs, textToken_cons, ← hcs, List.reverse_reverse, String.ofList_toList]

/-- A variable is read back together with the text before it, which may be missing. -/
theorem tokensAfter_pieces_var {before : List Char} (hseparator : ∀ c ∈ separator, isSeparator c = true)
    (hlast : separator = none → ∀ c ∈ before.getLast?, isSeparator c = false) :
    tokensAfter part overrides before.reverse (Token.pieces (.var separator constraint name) ++ pieces) =
      textToken before.reverse ++ .var separator (constraintFor part overrides name pieces) name ::
        tokensAfter part overrides [] pieces := by
  obtain ⟨htaken, hremaining⟩ := takenSeparator_append hseparator hlast
  rw [Token.pieces, List.append_assoc, tokensAfter_map_char, List.singleton_append, tokensAfter, htaken,
    hremaining]

/-- **A canonical list of tokens is read back from its pieces**, up to the constraints, after a text that
it may follow. -/
theorem bare_tokensAfter_pieces (part : Part) (overrides : Lookup) {before : List Char}
    (h : Canonical tokens) (hbefore : before ≠ [] → Follows (String.ofList before) tokens) :
    (tokensAfter part overrides before.reverse (tokens.flatMap Token.pieces)).map Token.bare =
      (textToken before.reverse ++ tokens).map Token.bare := by
  induction tokens generalizing before with
  | nil => rw [List.flatMap_nil, tokensAfter, List.append_nil]
  | cons token tokens ih =>
    cases token with
    | text content =>
      obtain ⟨hne, -, hfollows, h⟩ := canonical_text_cons.1 h
      -- A text follows no text.
      have hnil : before = [] := by
        by_contra hbefore'
        obtain ⟨separator, constraint, name, heq, -⟩ := hbefore hbefore' _ rfl
        cases heq
      subst hnil
      have hread := @ih content.toList h (fun _ => by rwa [String.ofList_toList])
      rw [textToken_reverse hne] at hread
      rw [List.flatMap_cons, Token.pieces, tokensAfter_map_char, List.reverse_nil, List.append_nil, hread]
      rfl
    | var separator constraint name =>
      obtain ⟨hseparator, h⟩ := canonical_var_cons.1 h
      have hlast : separator = none → ∀ c ∈ before.getLast?, isSeparator c = false := by
        intro hnone c hc
        have hne : before ≠ [] := by
          rintro rfl
          cases hc
        obtain ⟨s, _, _, heq, hlast⟩ := hbefore hne _ rfl
        obtain ⟨rfl, -, -⟩ := Token.var.inj heq
        rw [String.toList_ofList] at hlast
        exact hlast hnone c hc
      have hread := @ih [] h (fun hne => absurd rfl hne)
      rw [List.reverse_nil] at hread
      rw [List.flatMap_cons, tokensAfter_pieces_var hseparator hlast, List.map_append, List.map_append,
        List.map_cons, hread]
      rfl

end RoutePatterns
