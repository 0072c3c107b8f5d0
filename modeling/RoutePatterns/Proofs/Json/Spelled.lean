import RoutePatterns.Json.Writer

/-!
# Texts that spell tokens

A text spells tokens if it consists of their texts, with blanks between them (`Spells`). Such a text is cut into
just these tokens (`lex_of_spells`): an escaped character is read back as the character
(`lexFrom_escapeChar`), so a string ends at its own quote. Both ways of writing a value spell its tokens
(`Value.spells_compact`, `Value.spells_pretty`).
-/

namespace RoutePatterns

namespace Json

variable {c : Char} {cs read : List Char} {state state' : LexState} {t : Token} {ts : List Token}

/-! ### One token -/

theorem lexFrom_of_step_eq_nil (h : lexStep state c = some ([], state')) :
    lexFrom state (c :: cs) = lexFrom state' cs := by
  simp [lexFrom, h]

theorem lexFrom_of_step_eq_single (h : lexStep state c = some ([t], state')) :
    lexFrom state (c :: cs) = (lexFrom state' cs).map (t :: ·) := by
  cases hrest : lexFrom state' cs <;> simp [lexFrom, h, hrest]

/-- Inside a string whose text so far is given in reverse. -/
def inString (read : List Char) : LexState := .string { chars := some read }

theorem lexFrom_char (hquote : c ≠ '"') (hbackslash : c ≠ '\\') (hcontrol : ¬c.toNat < 0x20) :
    lexFrom (inString read) (c :: cs) = lexFrom (inString (c :: read)) cs := by
  apply lexFrom_of_step_eq_nil
  simp [lexStep, inString, hquote, hbackslash, hcontrol, StringSoFar.push]

theorem lexFrom_letter {letter : Char} (hunit : letter ≠ 'u') (h : escaped? letter = some c) :
    lexFrom (inString read) ('\\' :: letter :: cs) = lexFrom (inString (c :: read)) cs := by
  have hbackslash : lexStep (inString read) '\\' = some ([], .escape { chars := some read }) := rfl
  rw [lexFrom_of_step_eq_nil hbackslash]
  apply lexFrom_of_step_eq_nil
  simp [lexStep, hunit, h, inString, StringSoFar.push]

theorem hexDigit?_hexChar : ∀ n < 16, hexDigit? (hexChar n) = some n := by decide

theorem lexFrom_digit {s : StringSoFar} {left value d : Nat} (h : hexDigit? c = some d) :
    lexFrom (.unit s (left + 1) value) (c :: cs) = lexFrom (.unit s left (value * 16 + d)) cs :=
  lexFrom_of_step_eq_nil (by simp [lexStep, h])

theorem lexFrom_lastDigit {s : StringSoFar} {value d : Nat} (h : hexDigit? c = some d) :
    lexFrom (.unit s 0 value) (c :: cs) = lexFrom (.string (s.pushUnit (value * 16 + d))) cs :=
  lexFrom_of_step_eq_nil (by simp [lexStep, h])

/-- Control characters are no halves of surrogate pairs. -/
theorem pushUnit_of_lt (h : c.toNat < 0x20) :
    StringSoFar.pushUnit { chars := some read } c.toNat = { chars := some (c :: read) } := by
  have hhigh : ¬(0xD800 ≤ c.toNat ∧ c.toNat ≤ 0xDBFF) := by omega
  have hlow : ¬(0xDC00 ≤ c.toNat ∧ c.toNat ≤ 0xDFFF) := by omega
  simp [StringSoFar.pushUnit, hhigh, hlow, Char.ofNat_toNat]

theorem lexFrom_unit (h : c.toNat < 0x20) :
    lexFrom (inString read)
        (['\\', 'u', '0', '0', hexChar (c.toNat / 16), hexChar (c.toNat % 16)] ++ cs) =
      lexFrom (inString (c :: read)) cs := by
  have hbackslash : lexStep (inString read) '\\' = some ([], .escape { chars := some read }) := rfl
  have hunit : lexStep (.escape { chars := some read }) 'u' = some ([], .unit { chars := some read } 3 0) := rfl
  have hvalue : ((0 * 16 + 0) * 16 + 0) * 16 + c.toNat / 16 = c.toNat / 16 := by omega
  have htoNat : c.toNat / 16 * 16 + c.toNat % 16 = c.toNat := Nat.div_add_mod' _ _
  simp only [List.cons_append, List.nil_append]
  rw [lexFrom_of_step_eq_nil hbackslash, lexFrom_of_step_eq_nil hunit, lexFrom_digit (d := 0) rfl,
    lexFrom_digit (d := 0) rfl, lexFrom_digit (hexDigit?_hexChar (c.toNat / 16) (by omega)),
    lexFrom_lastDigit (hexDigit?_hexChar (c.toNat % 16) (by omega)), hvalue, htoNat, pushUnit_of_lt h]
  rfl

/-- **An escaped character is read as the character.** -/
theorem lexFrom_escapeChar (c : Char) (read cs : List Char) :
    lexFrom (inString read) (escapeChar c ++ cs) = lexFrom (inString (c :: read)) cs := by
  fun_cases escapeChar c
  case case8 hcontrol => exact lexFrom_unit hcontrol
  case case9 hquote hbackslash _ _ _ _ _ hcontrol => exact lexFrom_char hquote hbackslash hcontrol
  -- The others are escaped by a letter.
  all_goals exact lexFrom_letter (by decide) rfl

theorem lexFrom_flatMap_escapeChar (text read cs : List Char) :
    lexFrom (inString read) (text.flatMap escapeChar ++ cs) = lexFrom (inString (text.reverse ++ read)) cs := by
  induction text generalizing read with
  | nil => rfl
  | cons c text ih =>
    rw [List.flatMap_cons, List.append_assoc, lexFrom_escapeChar, ih, List.reverse_cons, List.append_assoc,
      List.singleton_append]

theorem lexFrom_quoted (s : String) (cs : List Char) :
    lexFrom .between ((quoted s).toList ++ cs) = (lexFrom .between cs).map (.string (some s) :: ·) := by
  have hopen : lexStep .between '"' = some ([], inString []) := rfl
  have hclose : lexStep (inString s.toList.reverse) '"' = some ([.string (some s)], .between) := by
    simp [lexStep, inString, StringSoFar.text]
  rw [quoted, String.toList_ofList, List.cons_append, List.cons_append, lexFrom_of_step_eq_nil hopen,
    List.append_assoc, lexFrom_flatMap_escapeChar, List.append_nil]
  exact lexFrom_of_step_eq_single hclose

theorem lexFrom_word (rest : List Char) (c : Char) (t : Token) (cs : List Char) :
    lexFrom (.word (c :: rest) t) (c :: rest ++ cs) = (lexFrom .between cs).map (t :: ·) := by
  induction rest generalizing c with
  | nil => exact lexFrom_of_step_eq_single (by simp [lexStep])
  | cons d rest ih =>
    have hstep : lexStep (.word (c :: d :: rest) t) c = some ([], .word (d :: rest) t) := by simp [lexStep]
    rw [List.cons_append, lexFrom_of_step_eq_nil hstep]
    exact ih d

/-- A token whose text says where it ends, so no number, and which is no string without text. -/
def Token.HasText : Token → Prop
  | number _ => False
  | string text => text.isSome
  | _ => True

theorem lexFrom_text (h : t.HasText) (cs : List Char) :
    lexFrom .between (t.text.toList ++ cs) = (lexFrom .between cs).map (t :: ·) := by
  cases t with
  | number literal => exact absurd h (by simp [Token.HasText])
  | string text =>
    obtain ⟨s, rfl⟩ := Option.isSome_iff_exists.1 h
    exact lexFrom_quoted s cs
  | null => exact (lexFrom_of_step_eq_nil rfl).trans (lexFrom_word ['l', 'l'] 'u' .null cs)
  | bool b =>
    cases b with
    | true => exact (lexFrom_of_step_eq_nil rfl).trans (lexFrom_word ['u', 'e'] 'r' (.bool true) cs)
    | false => exact (lexFrom_of_step_eq_nil rfl).trans (lexFrom_word ['l', 's', 'e'] 'a' (.bool false) cs)
  | _ => exact lexFrom_of_step_eq_single rfl

/-! ### Texts -/

/-- A text consists of the texts of tokens, with blanks between them. -/
inductive Spells : List Char → List Token → Prop where
  | nil : Spells [] []
  | blank {c : Char} {cs : List Char} {ts : List Token} (hc : isBlank c = true) (h : Spells cs ts) :
      Spells (c :: cs) ts
  | token {t : Token} {cs : List Char} {ts : List Token} (ht : t.HasText) (h : Spells cs ts) :
      Spells (t.text.toList ++ cs) (t :: ts)

/-- **A text that spells tokens is cut into these tokens.** -/
theorem lexFrom_of_spells (h : Spells cs ts) : lexFrom .between cs = some ts := by
  induction h with
  | nil => rfl
  | @blank c _ _ hc _ ih =>
    have hstep : lexStep .between c = some ([], .between) := by simp [lexStep, startToken, hc]
    rw [lexFrom_of_step_eq_nil hstep, ih]
  | token ht _ ih => rw [lexFrom_text ht, ih, Option.map_some]

theorem lex_of_spells {s : String} (h : Spells s.toList ts) : lex s = some ts := lexFrom_of_spells h

theorem Spells.append {cs' : List Char} {ts' : List Token} (h : Spells cs ts) (h' : Spells cs' ts') :
    Spells (cs ++ cs') (ts ++ ts') := by
  induction h with
  | nil => exact h'
  | blank hc _ ih => exact .blank hc ih
  | token ht _ ih =>
    rw [List.append_assoc]
    exact .token ht ih

theorem spells_text (h : t.HasText) : Spells t.text.toList [t] := by
  simpa using Spells.token h .nil

theorem Spells.concat {s s' : String} {ts' : List Token} (h : Spells s.toList ts) (h' : Spells s'.toList ts') :
    Spells (s ++ s').toList (ts ++ ts') := by
  rw [String.toList_append]
  exact h.append h'

theorem Spells.concat_blanks {s s' : String} (h : Spells s.toList ts) (h' : Spells s'.toList []) :
    Spells (s ++ s').toList ts := by
  simpa using h.concat h'

theorem spells_join (h : ∀ t ∈ ts, t.HasText) : Spells (String.join (ts.map Token.text)).toList ts := by
  induction ts with
  | nil => exact .nil
  | cons t ts ih =>
    obtain ⟨ht, hts⟩ := List.forall_mem_cons.1 h
    rw [List.map_cons, String.join_cons]
    exact (spells_text ht).concat (ih hts)

theorem spells_blanks (h : ∀ c ∈ cs, isBlank c = true) : Spells cs [] := by
  induction cs with
  | nil => exact .nil
  | cons c cs ih =>
    obtain ⟨hc, hcs⟩ := List.forall_mem_cons.1 h
    exact .blank hc (ih hcs)

namespace Value

/-- The strings of a value have texts, and there are no numbers in it. -/
def HasText (v : Value) : Prop := ∀ t ∈ v.tokens, t.HasText

theorem spells_compact {v : Value} (h : v.HasText) : Spells v.compact.toList v.tokens := spells_join h

theorem spells_newline (level : Nat) : Spells (newline level).toList [] := by
  refine spells_blanks fun c hc => ?_
  rw [newline, String.toList_ofList] at hc
  obtain rfl | hc := List.mem_cons.1 hc
  · rfl
  · rw [List.eq_of_mem_replicate hc]
    rfl

theorem spells_comma : Spells ",".toList [.comma] := spells_text (t := .comma) trivial

theorem spells_colon : Spells ": ".toList [.colon] := .token (t := .colon) trivial (.blank rfl .nil)

mutual

theorem spells_prettyAt : ∀ (v : Value) (level : Nat), v.HasText → Spells (v.prettyAt level).toList v.tokens
  | null, _, h => spells_text (h _ List.mem_cons_self)
  | bool _, _, h => spells_text (h _ List.mem_cons_self)
  | number _, _, h => absurd (h _ List.mem_cons_self) (by simp [Token.HasText])
  | string _, _, h => spells_text (h _ List.mem_cons_self)
  | array [], _, _ =>
    (spells_text (t := .openBracket) trivial).concat (spells_text (t := .closeBracket) trivial)
  | object [], _, _ => (spells_text (t := .openBrace) trivial).concat (spells_text (t := .closeBrace) trivial)
  | array (v :: vs), level, h => by
    have hopen : Spells "[".toList [.openBracket] := spells_text (t := .openBracket) trivial
    have hclose : Spells "]".toList [.closeBracket] := spells_text (t := .closeBracket) trivial
    have hitems := spells_prettyItems (v :: vs) (level + 1) fun t ht => h t (by simp [tokens, ht])
    exact ((hopen.concat hitems).concat_blanks (spells_newline level)).concat hclose
  | object (m :: ms), level, h => by
    have hopen : Spells "\x7b".toList [.openBrace] := spells_text (t := .openBrace) trivial
    have hclose : Spells "\x7d".toList [.closeBrace] := spells_text (t := .closeBrace) trivial
    have hmembers := spells_prettyMembers (m :: ms) (level + 1) fun t ht => h t (by simp [tokens, ht])
    exact ((hopen.concat hmembers).concat_blanks (spells_newline level)).concat hclose

theorem spells_prettyItems : ∀ (vs : List Value) (level : Nat), (∀ t ∈ tokensOfItems vs, t.HasText) →
    Spells (prettyItems level vs).toList (tokensOfItems vs)
  | [], _, _ => .nil
  | [v], level, h => (spells_newline level).concat (spells_prettyAt v level h)
  | v :: w :: vs, level, h => by
    have hitem := spells_prettyAt v level fun t ht => h t (by simp [tokensOfItems, ht])
    have hitems := spells_prettyItems (w :: vs) level fun t ht => h t (by simp [tokensOfItems, ht])
    rw [tokensOfItems_cons_cons, List.append_cons]
    exact (((spells_newline level).concat hitem).concat spells_comma).concat hitems

theorem spells_prettyMembers : ∀ (ms : List (Option String × Value)) (level : Nat),
    (∀ t ∈ tokensOfMembers ms, t.HasText) → Spells (prettyMembers level ms).toList (tokensOfMembers ms)
  | [], _, _ => .nil
  | [(k, v)], level, h => by
    have hkey := spells_text (h (.string k) (by simp [tokensOfMembers]))
    have hvalue := spells_prettyAt v level fun t ht => h t (by simp [tokensOfMembers, ht])
    exact (((spells_newline level).concat hkey).concat spells_colon).concat hvalue
  | (k, v) :: m :: ms, level, h => by
    have hkey := spells_text (h (.string k) (by simp [tokensOfMembers]))
    have hvalue := spells_prettyAt v level fun t ht => h t (by simp [tokensOfMembers, ht])
    have hmembers := spells_prettyMembers (m :: ms) level fun t ht => h t (by simp [tokensOfMembers, ht])
    rw [tokensOfMembers_cons_cons, List.append_cons]
    exact (((((spells_newline level).concat hkey).concat spells_colon).concat hvalue).concat spells_comma).concat
      hmembers

end

theorem spells_pretty {v : Value} (h : v.HasText) : Spells v.pretty.toList v.tokens := spells_prettyAt v 0 h

end Value

end Json

end RoutePatterns
