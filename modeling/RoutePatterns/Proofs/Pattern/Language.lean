import RoutePatterns.Proofs.Pattern.Filled
import RoutePatterns.Proofs.Pattern.Meaning

/-!
# The texts that an assembled expression matches

The expression of a list of tokens matches the texts that consist of the tokens with values that their
constraints accept (`match_bodyExprs`), and a run through it captures the values
(`exists_matched_of_mem_runs`). Both directions follow the shape of the expression: a token, the tokens
before the optional run, the run from its end, and all of them together.

The expression matches more than a generator fills in: if all tokens are in the optional run, the first
value may be missing and others still be there (`Matched.skipped`).
-/

namespace RoutePatterns

open Regex

/-- A text that the expression of a list of tokens matches, and the values that it captures. -/
inductive Matched (accepts : String → String → Prop) (optional : List String) (tokens : List Token)
    (values : List (String × String)) (s : String) : Prop
  | filled (h : Filled accepts optional (detached optional tokens) values s)
  | skipped {separator : Option Char} {constraint name : String} {run : List Token} {s' : String}
      (htokens : tokens = .var separator constraint name :: run) (hname : name ∈ optional)
      (h : Filled accepts optional run values s') (hs : s = separatorText separator ++ s')

namespace Token

/-- The expression of a constraint, if it is one. -/
def constraintExpr (constraint : String) : Expr := (exprOfText? constraint).getD .empty

/-- What is accepted by the constraint of a token is matched by its expression, in any text. -/
def Admits (accepts : String → String → Prop) : Token → Prop
  | text _ => True
  | var _ constraint _ => ∀ {cs : List Char} {p q : Nat} {value : String},
    Between cs p q value.toList → accepts constraint value → (constraintExpr constraint).Match cs p q

/-- What is matched by the expression of the constraint of a token is accepted by the constraint, and
captured by no other group. -/
def Reflects (accepts : String → String → Prop) : Token → Prop
  | text _ => True
  | var _ constraint _ => (constraintExpr constraint).groupNames = [] ∧
    ∀ {cs : List Char} {p q : Nat} {value : String}, Between cs p q value.toList →
      (constraintExpr constraint).Match cs p q → accepts constraint value

theorem isOneOf_iff {optional : List String} {token : Token} :
    token.isOneOf optional = true ↔
      ∃ separator constraint name, token = var separator constraint name ∧ name ∈ optional := by
  cases token with
  | text content => simp [isOneOf, name?]
  | var separator constraint name => simp [isOneOf, name?]

end Token

variable {accepts : String → String → Prop} {optional : List String} {tokens before run : List Token}
  {values : List (String × String)} {s : String} {cs : List Char} {p q : Nat}

/-! ### Every filled text is matched -/

theorem match_exprs_of_accepts {separator : Option Char} {constraint name value : String}
    (htoken : (Token.var separator constraint name).Admits accepts) (hvalue : accepts constraint value)
    (h : Between cs p q (separatorText separator ++ value).toList) :
    (Expr.ofItems (Token.var separator constraint name).exprs).Match cs p q := by
  rw [separatorText, String.toList_append, String.toList_ofList] at h
  obtain ⟨m, hseparator, hcapture⟩ := h.split
  exact Expr.match_ofItems_append.2
    ⟨m, (Expr.match_literals hseparator.start_le).2 hseparator, htoken hcapture hvalue⟩

theorem match_exprs_of_filled (htokens : ∀ token ∈ tokens, token.Admits accepts)
    (h : Filled accepts [] tokens values s) (hs : Between cs p q s.toList) :
    (Expr.ofItems (tokens.flatMap Token.exprs)).Match cs p q := by
  induction h generalizing p with
  | nil => exact Expr.match_ofItems_nil.2 hs.eq_of_nil
  | text h ih =>
    rw [String.toList_append] at hs
    obtain ⟨m, hcontent, hs⟩ := hs.split
    rw [List.flatMap_cons, Expr.match_ofItems_append]
    exact ⟨m, (Expr.match_literals hcontent.start_le).2 hcontent,
      ih (fun t ht => htokens t (List.mem_cons_of_mem _ ht)) hs⟩
  | var hvalue h ih =>
    rw [String.toList_append] at hs
    obtain ⟨m, htoken, hs⟩ := hs.split
    rw [List.flatMap_cons, Expr.match_ofItems_append]
    exact ⟨m, match_exprs_of_accepts (htokens _ List.mem_cons_self) hvalue htoken,
      ih (fun t ht => htokens t (List.mem_cons_of_mem _ ht)) hs⟩
  | stop hname => cases hname

theorem match_nestedExprs_of_filled (hrun : ∀ token ∈ run, token.isOneOf optional = true)
    (htokens : ∀ token ∈ run, token.Admits accepts) (h : Filled accepts optional run values s)
    (hs : Between cs p q s.toList) : (Expr.ofItems (nestedExprs run)).Match cs p q := by
  -- The text stops where the innermost group that is there ends.
  induction h generalizing p with
  | nil => exact Expr.match_ofItems_nil.2 hs.eq_of_nil
  | text _ _ => cases hrun _ List.mem_cons_self
  | var hvalue h ih =>
    rw [String.toList_append] at hs
    obtain ⟨m, htoken, hs⟩ := hs.split
    rw [nestedExprs, Expr.ofItems, Expr.match_optional, Expr.match_ofItems_append]
    exact .inl ⟨m, match_exprs_of_accepts (htokens _ List.mem_cons_self) hvalue htoken,
      ih (fun t ht => hrun t (List.mem_cons_of_mem _ ht))
        (fun t ht => htokens t (List.mem_cons_of_mem _ ht)) hs⟩
  | stop _ =>
    rw [nestedExprs, Expr.ofItems, Expr.match_optional]
    exact .inr hs.eq_of_nil

/-- The optional run may be left out as a whole. -/
theorem filled_empty (hrun : ∀ token ∈ run, token.isOneOf optional = true) :
    Filled accepts optional run [] "" := by
  cases run with
  | nil => exact .nil
  | cons token run =>
    obtain ⟨separator, constraint, name, rfl, hname⟩ := Token.isOneOf_iff.1 (hrun _ List.mem_cons_self)
    exact .stop hname

/-- If the first token is not optional, its separator is no text of its own. -/
theorem detached_of_forall_not_mem (hbefore : ∀ name ∈ Token.names before, name ∉ optional)
    (hne : before ≠ []) : detached optional (before ++ run) = before ++ run := by
  cases before with
  | nil => exact absurd rfl hne
  | cons token before =>
    cases token with
    | text content => rfl
    | var separator constraint name =>
      rw [List.cons_append, detached, if_neg (hbefore name List.mem_cons_self)]

/-- If all tokens are in the optional run, the separator of the first one is matched, then its value or
nothing, then the rest of the run. -/
theorem match_bodyExprs_cons {separator : Option Char} {constraint name : String} :
    (Expr.ofItems (bodyExprs [] (.var separator constraint name :: run))).Match cs p q ↔
      ∃ m, (Expr.ofItems (literals separator.toList)).Match cs p m ∧
        ∃ i, ((Token.constraintExpr constraint).Match cs m i ∨ m = i) ∧
          (Expr.ofItems (nestedExprs run)).Match cs i q := by
  rw [bodyExprs, Expr.match_ofItems_append]
  simp only [Expr.match_ofItems_cons, Expr.match_optional]
  rfl

theorem match_bodyExprs_of_matched_cons {separator : Option Char} {constraint name : String}
    (hname : name ∈ optional) (hrun : ∀ token ∈ run, token.isOneOf optional = true)
    (htokens : ∀ token ∈ .var separator constraint name :: run, token.Admits accepts)
    (h : Matched accepts optional (.var separator constraint name :: run) values s)
    (hs : Between cs p q s.toList) :
    (Expr.ofItems (bodyExprs [] (.var separator constraint name :: run))).Match cs p q := by
  obtain ⟨hadmits, hadmitsRun⟩ := List.forall_mem_cons.1 htokens
  rw [match_bodyExprs_cons]
  cases h with
  | filled h =>
    -- The separator is there in any case; the text may stop right after it.
    rw [detached, if_pos hname] at h
    cases h with
    | text h =>
      rw [String.toList_append, separatorText, String.toList_ofList] at hs
      obtain ⟨m, hseparator, hs⟩ := hs.split
      refine ⟨m, (Expr.match_literals hseparator.start_le).2 hseparator, ?_⟩
      cases h with
      | var hvalue h =>
        rw [separatorText, String.toList_append, String.toList_append] at hs
        obtain ⟨i, hcapture, hs⟩ := hs.split
        exact ⟨i, .inl (hadmits hcapture hvalue), match_nestedExprs_of_filled hrun hadmitsRun h hs⟩
      | stop _ =>
        exact ⟨m, .inr rfl, match_nestedExprs_of_filled hrun hadmitsRun (filled_empty hrun) hs⟩
  | skipped heq _ h hs' =>
    obtain ⟨hvar, rfl⟩ := List.cons.inj heq
    obtain ⟨rfl, rfl, rfl⟩ := Token.var.inj hvar
    rw [hs', String.toList_append, separatorText, String.toList_ofList] at hs
    obtain ⟨m, hseparator, hs⟩ := hs.split
    exact ⟨m, (Expr.match_literals hseparator.start_le).2 hseparator, m, .inr rfl,
      match_nestedExprs_of_filled hrun hadmitsRun h hs⟩

/-- **Every text that is filled into the tokens is matched.** -/
theorem match_bodyExprs (hbefore : ∀ name ∈ Token.names before, name ∉ optional)
    (hrun : ∀ token ∈ run, token.isOneOf optional = true)
    (htokens : ∀ token ∈ before ++ run, token.Admits accepts)
    (h : Matched accepts optional (before ++ run) values s) (hs : Between cs p q s.toList) :
    (Expr.ofItems (bodyExprs before run)).Match cs p q := by
  cases before with
  | cons token before =>
    cases h with
    | filled h =>
      rw [detached_of_forall_not_mem hbefore (List.cons_ne_nil _ _)] at h
      obtain ⟨values₁, s₁, values₂, s₂, -, rfl, h₁, h₂⟩ := h.split hbefore
      rw [String.toList_append] at hs
      obtain ⟨m, hs₁, hs₂⟩ := hs.split
      exact Expr.match_ofItems_append.2
        ⟨m, match_exprs_of_filled (fun t ht => htokens t (List.mem_append_left _ ht)) h₁ hs₁,
          match_nestedExprs_of_filled hrun (fun t ht => htokens t (List.mem_append_right _ ht)) h₂ hs₂⟩
    | skipped heq hname _ _ =>
      obtain ⟨rfl, -⟩ := List.cons.inj heq
      exact absurd hname (hbefore _ List.mem_cons_self)
  | nil =>
    cases run with
    | nil =>
      cases h with
      | filled h =>
        cases h
        exact Expr.match_ofItems_nil.2 hs.eq_of_nil
      | skipped heq _ _ _ => cases heq
    | cons token run =>
      obtain ⟨hfirst, hrest⟩ := List.forall_mem_cons.1 hrun
      obtain ⟨separator, constraint, name, rfl, hname⟩ := Token.isOneOf_iff.1 hfirst
      exact match_bodyExprs_of_matched_cons hname hrest htokens h hs

/-! ### Every run is through a filled text -/

/-- One run goes on from another one over a text, and captures values on the way. -/
structure Takes (cs : List Char) (r r' : Run) (values : List (String × String)) (s : String) :
    Prop where
  between : Between cs r.position r'.position s.toList
  texts : r'.texts cs = values.reverse ++ r.texts cs

variable {r r' r'' : Run} {values' : List (String × String)} {s' : String}

namespace Takes

theorem refl (hr : r.position ≤ cs.length) : Takes cs r r [] "" := ⟨.nil hr, rfl⟩

theorem trans (h : Takes cs r r' values s) (h' : Takes cs r' r'' values' s') :
    Takes cs r r'' (values ++ values') (s ++ s') := by
  refine ⟨?_, ?_⟩
  · rw [String.toList_append]
    exact h.between.append h'.between
  · rw [h'.texts, h.texts, List.reverse_append, List.append_assoc]

theorem of_literals {l : List Char} (hr : r.position ≤ cs.length)
    (h : r' ∈ (Expr.ofItems (literals l)).runs cs r) : Takes cs r r' [] (String.ofList l) := by
  refine ⟨?_, ?_⟩
  · rw [String.toList_ofList]
    exact (Expr.match_literals hr).1 (Expr.match_of_mem_runs hr h)
  · have hkeeps := Expr.keeps_of_mem_runs h
    rw [Expr.groupNames_literals] at hkeeps
    exact hkeeps.texts_eq

/-- A capture keeps the text that its part matches. -/
theorem of_capture {name : String} {x : Expr} (hx : x.groupNames = []) (hr : r.position ≤ cs.length)
    (h : r' ∈ (Expr.capture (some name) x).runs cs r) :
    ∃ value, x.Match cs r.position r'.position ∧ Takes cs r r' [(name, value)] value := by
  obtain ⟨s, hs, rfl⟩ := List.mem_map.1 h
  have hmatch := Expr.match_of_mem_runs hr hs
  have hkeeps := Expr.keeps_of_mem_runs hs
  rw [hx] at hkeeps
  have hbetween : Between cs r.position s.position ((cs.take s.position).drop r.position) :=
    ⟨hmatch.le, hmatch.le_length hr, rfl⟩
  refine ⟨String.ofList ((cs.take s.position).drop r.position), hmatch, ?_, ?_⟩
  · rw [String.toList_ofList]
    exact hbetween
  · rw [← hkeeps.texts_eq]
    rfl

end Takes

theorem exists_filled_of_mem_runs_token {token : Token} (htoken : token.Reflects accepts)
    (hr : r.position ≤ cs.length) (h : r' ∈ (Expr.ofItems token.exprs).runs cs r) :
    ∃ values s, Filled accepts [] [token] values s ∧ Takes cs r r' values s := by
  cases token with
  | text content =>
    have htakes := Takes.of_literals hr h
    rw [String.ofList_toList] at htakes
    have hfilled : Filled accepts [] [.text content] [] (content ++ "") := .text .nil
    exact ⟨[], content, by simpa using hfilled, htakes⟩
  | var separator constraint name =>
    obtain ⟨t, ht, h⟩ := Expr.mem_runs_ofItems_append.1 h
    have hseparator := Takes.of_literals hr ht
    have hpos := hseparator.between.le_length
    obtain ⟨value, hmatch, hcapture⟩ := Takes.of_capture htoken.1 hpos h
    refine ⟨[(name, value)], separatorText separator ++ value, ?_, hseparator.trans hcapture⟩
    have hfilled : Filled accepts [] [.var separator constraint name] [(name, value)]
        (separatorText separator ++ value ++ "") :=
      .var (htoken.2 hcapture.between hmatch) .nil
    simpa using hfilled

theorem exists_filled_of_mem_runs_exprs (htokens : ∀ token ∈ tokens, token.Reflects accepts)
    (hr : r.position ≤ cs.length)
    (h : r' ∈ (Expr.ofItems (tokens.flatMap Token.exprs)).runs cs r) :
    ∃ values s, Filled accepts [] tokens values s ∧ Takes cs r r' values s := by
  induction tokens generalizing r with
  | nil =>
    obtain rfl := List.mem_singleton.1 h
    exact ⟨[], "", .nil, .refl hr⟩
  | cons token tokens ih =>
    rw [List.flatMap_cons, Expr.mem_runs_ofItems_append] at h
    obtain ⟨t, ht, h⟩ := h
    obtain ⟨values₁, s₁, hfilled₁, htakes₁⟩ :=
      exists_filled_of_mem_runs_token (htokens _ List.mem_cons_self) hr ht
    obtain ⟨values₂, s₂, hfilled₂, htakes₂⟩ :=
      ih (fun t ht => htokens t (List.mem_cons_of_mem _ ht)) htakes₁.between.le_length h
    exact ⟨_, _, hfilled₁.append hfilled₂, htakes₁.trans htakes₂⟩

theorem exists_filled_of_mem_runs_nestedExprs
    (hrun : ∀ token ∈ run, token.isOneOf optional = true)
    (htokens : ∀ token ∈ run, token.Reflects accepts) (hr : r.position ≤ cs.length)
    (h : r' ∈ (Expr.ofItems (nestedExprs run)).runs cs r) :
    ∃ values s, Filled accepts optional run values s ∧ Takes cs r r' values s := by
  induction run generalizing r with
  | nil =>
    obtain rfl := List.mem_singleton.1 h
    exact ⟨[], "", .nil, .refl hr⟩
  | cons token run ih =>
    rw [nestedExprs, Expr.ofItems, Expr.mem_runs_optional, Expr.mem_runs_ofItems_append] at h
    rcases h with ⟨t, ht, h⟩ | rfl
    · obtain ⟨values₁, s₁, hfilled₁, htakes₁⟩ :=
        exists_filled_of_mem_runs_token (htokens _ List.mem_cons_self) hr ht
      obtain ⟨values₂, s₂, hfilled₂, htakes₂⟩ := ih (fun t ht => hrun t (List.mem_cons_of_mem _ ht))
        (fun t ht => htokens t (List.mem_cons_of_mem _ ht)) htakes₁.between.le_length h
      exact ⟨_, _, hfilled₁.append hfilled₂, htakes₁.trans htakes₂⟩
    · exact ⟨[], "", filled_empty hrun, .refl hr⟩

/-- **Every run is through a text that is filled into the tokens, and captures the values.** -/
theorem exists_matched_of_mem_runs (hbefore : ∀ name ∈ Token.names before, name ∉ optional)
    (hrun : ∀ token ∈ run, token.isOneOf optional = true)
    (htokens : ∀ token ∈ before ++ run, token.Reflects accepts) (hr : r.position ≤ cs.length)
    (h : r' ∈ (Expr.ofItems (bodyExprs before run)).runs cs r) :
    ∃ values s, Matched accepts optional (before ++ run) values s ∧ Takes cs r r' values s := by
  have hreflects := fun t ht => htokens t (List.mem_append_right before ht)
  cases before with
  | cons token before =>
    obtain ⟨t, ht, h⟩ := Expr.mem_runs_ofItems_append.1 h
    obtain ⟨values₁, s₁, hfilled₁, htakes₁⟩ := exists_filled_of_mem_runs_exprs
      (fun t ht => htokens t (List.mem_append_left _ ht)) hr ht
    obtain ⟨values₂, s₂, hfilled₂, htakes₂⟩ := exists_filled_of_mem_runs_nestedExprs hrun hreflects
      htakes₁.between.le_length h
    refine ⟨_, _, .filled ?_, htakes₁.trans htakes₂⟩
    rw [detached_of_forall_not_mem hbefore (List.cons_ne_nil _ _)]
    exact hfilled₁.append hfilled₂
  | nil =>
    cases run with
    | nil =>
      obtain rfl := List.mem_singleton.1 h
      exact ⟨[], "", .filled .nil, .refl hr⟩
    | cons token run =>
      obtain ⟨separator, constraint, name, rfl, hname⟩ := Token.isOneOf_iff.1 (hrun _ List.mem_cons_self)
      rw [bodyExprs, Expr.mem_runs_ofItems_append] at h
      simp only [Expr.mem_runs_ofItems_cons, Expr.mem_runs_optional] at h
      obtain ⟨t, ht, u, hu, h⟩ := h
      have hseparator : Takes cs r t [] (separatorText separator) := .of_literals hr ht
      have hrest {u : Run} (hu : u.position ≤ cs.length)
          (h : r' ∈ (Expr.ofItems (nestedExprs run)).runs cs u) :=
        exists_filled_of_mem_runs_nestedExprs (fun t ht => hrun t (List.mem_cons_of_mem _ ht))
          (fun t ht => hreflects t (List.mem_cons_of_mem _ ht)) hu h
      have htoken := hreflects _ List.mem_cons_self
      -- Without a value for the first variable, the run may go on all the same.
      rcases hu with hu | rfl
      · obtain ⟨value, hmatch, hcapture⟩ := Takes.of_capture htoken.1 hseparator.between.le_length hu
        obtain ⟨values, s, hfilled, htakes⟩ := hrest hcapture.between.le_length h
        refine ⟨_, _, .filled ?_, hseparator.trans (hcapture.trans htakes)⟩
        rw [List.nil_append, detached, if_pos hname]
        have hvar : Filled accepts optional (.var none constraint name :: run)
            ((name, value) :: values) (separatorText none ++ value ++ s) :=
          .var (htoken.2 hcapture.between hmatch) hfilled
        exact .text (by simpa [separatorText] using hvar)
      · obtain ⟨values, s, hfilled, htakes⟩ := hrest hseparator.between.le_length h
        exact ⟨_, _, .skipped rfl hname hfilled rfl, hseparator.trans htakes⟩

/-! ### Whole texts -/

/-- A text that is filled into the tokens is found by the whole expression. -/
theorem found_of_matched (hbefore : ∀ name ∈ Token.names before, name ∉ optional)
    (hrun : ∀ token ∈ run, token.isOneOf optional = true)
    (htokens : ∀ token ∈ before ++ run, token.Admits accepts)
    (h : Matched accepts optional (before ++ run) values s) :
    (anchoredExpr (bodyExprs before run)).found s.toList = true := by
  have hmatch := match_bodyExprs hbefore hrun htokens h (.whole s.toList)
  exact Expr.found_iff.2 ⟨0, s.toList.length, Nat.zero_le _,
    (match_anchoredExpr (Nat.zero_le _)).2 ⟨rfl, rfl, hmatch⟩⟩

/-- What the whole expression captures are the values of a text that is filled into the tokens. -/
theorem exists_matched_of_captures? (hbefore : ∀ name ∈ Token.names before, name ∉ optional)
    (hrun : ∀ token ∈ run, token.isOneOf optional = true)
    (htokens : ∀ token ∈ before ++ run, token.Reflects accepts) {caps : Lookup}
    (h : (anchoredExpr (bodyExprs before run)).captures? s = some caps) :
    ∃ values, Matched accepts optional (before ++ run) values s ∧
      ∀ name, caps name = values.reverse.lookup name := by
  obtain ⟨r, hr, rfl⟩ := Expr.captures?_eq_some_iff.1 h
  obtain ⟨p, hp, hmem⟩ := Expr.exists_mem_runs_of_firstRun? hr
  obtain ⟨hmem, hend⟩ := mem_runs_of_mem_runs_anchoredExpr hp hmem
  obtain ⟨values, s', hmatched, htakes⟩ := exists_matched_of_mem_runs hbefore hrun htokens
    (r := ⟨0, []⟩) (Nat.zero_le _) hmem
  have hbetween := htakes.between
  rw [hend] at hbetween
  obtain rfl := String.toList_injective hbetween.eq_of_whole
  refine ⟨values, hmatched, fun name => ?_⟩
  rw [htakes.texts]
  exact congrArg (List.lookup name) (List.append_nil _)

/-- Whatever is found by the whole expression is captured. -/
theorem exists_captures?_of_found {e : Expr} (h : e.found s.toList = true) :
    ∃ caps, e.captures? s = some caps := by
  obtain ⟨r, hr⟩ := Option.isSome_iff_exists.1 (Expr.isSome_firstRun?.trans h)
  exact ⟨_, Expr.captures?_eq_some_iff.2 ⟨r, hr, rfl⟩⟩

end RoutePatterns
