import RoutePatterns.Proofs.Pattern.Meaning

/-!
# Optional variables inside of each other

The expression of a list of tokens is written from left to right, with a count of the groups that are to
be closed at its end. By recursion on the optional run it is written as groups inside of groups
(`cascade`), and `cascade_assemble` says that the two texts are the same, for all tokens and for a run of
any length.

What this is for is a property of matches: a variable of the run is there only if the one before it is
(`OutsideIn`). The expression means parts that may be missing, each inside of the one before it
(`exists_bodyExprs_eq`), and a run through them takes some of the parts from the outside
(`outsideIn_of_mem_runs_nestedExprs`). The first variable of all is not counted: it has no group around
it, so the others may be there without it.
-/

namespace RoutePatterns

open Regex

/-! ### The text -/

/-- The tokens before the optional run. -/
def beforeRun (optional : List String) (tokens : List Token) : List Token :=
  tokens.take ((firstOptional optional tokens).getD tokens.length)

/-- The optional run. -/
def optionalRun (optional : List String) (tokens : List Token) : List Token :=
  tokens.drop ((firstOptional optional tokens).getD tokens.length)

/-- How a token is written: a text is quoted; a variable is its quoted separator, if it has one, and then a
group of its name around its constraint. -/
def Token.spelled : Token → String
  | .text content => quote content
  | .var none constraint name => "(?<" ++ name ++ ">" ++ constraint ++ ")"
  | .var (some separator) constraint name =>
    quote (String.ofList [separator]) ++ "(?<" ++ name ++ ">" ++ constraint ++ ")"

/-- Every variable of a list is in a group with all that comes after it, and the group may be missing. -/
def optionalGroups : List Token → String
  | [] => ""
  | token :: tokens => "(?:" ++ token.spelled ++ optionalGroups tokens ++ ")?"

/-- The text of an expression, by recursion on the optional run: every variable of the run is in a group
with all that comes after it, but if the run begins with the first token of all, the group of this token's
value is what may be missing. -/
def cascade : List Token → List Token → String
  | [], token :: run => "^" ++ token.spelled ++ "?" ++ optionalGroups run ++ "$"
  | before, run => "^" ++ String.join (before.map Token.spelled) ++ optionalGroups run ++ "$"

/-- The variables with a group around them, from the outside. -/
def chain : List Token → List Token → List Token
  | [], run => run.tail
  | _ :: _, run => run

/-- Of the variables in a list, the first ones are there and the others are not. -/
def OutsideIn (has : String → Bool) (tokens : List Token) : Prop :=
  ∃ taken left, tokens = taken ++ left ∧
    (∀ token ∈ taken, ∀ name ∈ token.name?, has name = true) ∧
    ∀ token ∈ left, ∀ name ∈ token.name?, has name = false

/-- The expression of a list of tokens is a cascade of optional groups. -/
structure Cascade (optional : List String) (tokens : List Token) : Prop where
  /-- The optional run is made of variables of `optional`. -/
  isOneOf : ∀ token ∈ optionalRun optional tokens, token.isOneOf optional = true
  /-- It goes back as far as it can. -/
  longest : ∀ token ∈ (beforeRun optional tokens).getLast?, token.isOneOf optional = false
  /-- The text is the one that is written by recursion. -/
  assemble_eq : assemble tokens (firstOptional optional tokens) =
    cascade (beforeRun optional tokens) (optionalRun optional tokens)
  /-- As many groups are closed as have been opened. -/
  openGroups_eq : openGroups (firstOptional optional tokens) tokens =
    (chain (beforeRun optional tokens) (optionalRun optional tokens)).length
  /-- If the fragments can be read, so can the text, and on every match a variable is there only if the
  one in whose group it stands is there. -/
  outsideIn : (∀ token ∈ tokens, token.Readable) → (tokens.flatMap Token.groupNames).Nodup →
    ∃ e, exprOfText? (assemble tokens (firstOptional optional tokens)) = some e ∧
      ∀ s value, e.captures? s = some value → OutsideIn (fun name => (value name).isSome)
        (chain (beforeRun optional tokens) (optionalRun optional tokens))

variable {optional : List String} {before run : List Token}

theorem Token.fragment_eq_spelled (token : Token) : token.fragment = token.spelled := by
  cases token with
  | text content => rfl
  | var separator constraint name =>
    cases separator with
    | none => simp [fragment, spelled, namedGroup, quote]
    | some s => simp [fragment, spelled, namedGroup, String.append_assoc]

theorem nested_eq_optionalGroups (tokens : List Token) : nested tokens = optionalGroups tokens := by
  induction tokens with
  | nil => rfl
  | cons token tokens ih => rw [nested, optionalGroups, ih, token.fragment_eq_spelled]

theorem assemble_eq_cascade (hvar : ∀ token ∈ run, token.name?.isSome) :
    assemble (before ++ run) (if run = [] then none else some before.length) = cascade before run := by
  have hspelled (tokens : List Token) : tokens.map Token.fragment = tokens.map Token.spelled :=
    List.map_congr_left fun token _ => token.fragment_eq_spelled
  cases run with
  | nil =>
    rw [if_pos rfl, List.append_nil, assemble_none, hspelled]
    cases before <;> simp [cascade, optionalGroups]
  | cons token run =>
    rw [if_neg (List.cons_ne_nil _ _)]
    cases before with
    | nil =>
      rw [List.nil_append, List.length_nil, assemble_cons hvar, token.fragment_eq_spelled,
        nested_eq_optionalGroups]
      rfl
    | cons first before =>
      rw [assemble_append (List.cons_ne_nil _ _) hvar, hspelled, nested_eq_optionalGroups]
      rfl

theorem openGroups_eq_length_chain (hvar : ∀ token ∈ run, token.name?.isSome) :
    openGroups (if run = [] then none else some before.length) (before ++ run) =
      (chain before run).length := by
  cases run with
  | nil =>
    rw [if_pos rfl, openGroups_none]
    cases before <;> rfl
  | cons token run =>
    rw [if_neg (List.cons_ne_nil _ _)]
    cases before with
    | nil => exact openGroups_cons fun t ht => hvar t (List.mem_cons_of_mem _ ht)
    | cons first before => exact openGroups_append (List.cons_ne_nil _ _) hvar

/-! ### The matches -/

variable {cs : List Char} {r r' : Run} {token : Token} {name : String}

theorem Token.mem_groupNames_of_mem_name? (h : name ∈ token.name?) : name ∈ token.groupNames := by
  cases token with
  | text content => cases h
  | var separator constraint other =>
    obtain rfl := Option.some.inj h
    exact List.mem_cons_self

/-- A run through the fragment of a variable captures its value. -/
theorem isSome_span?_of_mem_runs_exprs (hname : name ∈ token.name?)
    (h : r' ∈ (Expr.ofItems token.exprs).runs cs r) : (r'.span? name).isSome := by
  cases token with
  | text content => cases hname
  | var separator constraint other =>
    obtain rfl : other = name := Option.some.inj hname
    obtain ⟨s, -, hcapture⟩ := Expr.mem_runs_ofItems_append.1 h
    obtain ⟨t, -, rfl⟩ := List.mem_map.1 hcapture
    simp [Run.mark, Run.span?]

/-- **A run takes the groups of an optional run from the outside**, and none of them after one that it has
left out. -/
theorem outsideIn_of_mem_runs_nestedExprs (hnodup : (run.flatMap Token.groupNames).Nodup)
    (hnone : ∀ name ∈ run.flatMap Token.groupNames, r.span? name = none)
    (h : r' ∈ (Expr.ofItems (nestedExprs run)).runs cs r) :
    OutsideIn (fun name => (r'.span? name).isSome) run := by
  induction run generalizing r with
  | nil => exact ⟨[], [], rfl, by simp, by simp⟩
  | cons token run ih =>
    rw [List.flatMap_cons] at hnodup hnone
    obtain ⟨-, hnodup, hdisjoint⟩ := List.nodup_append.1 hnodup
    rw [nestedExprs, Expr.ofItems, Expr.mem_runs_optional, Expr.mem_runs_ofItems_append] at h
    rcases h with ⟨t, htoken, h⟩ | rfl
    · -- The group is taken, and its variable adds no spans of the names inside.
      have hkeeps := Expr.keeps_of_mem_runs htoken
      rw [Expr.groupNames_ofItems, token.flatMap_groupNames_exprs] at hkeeps
      have hnone' : ∀ name ∈ run.flatMap Token.groupNames, t.span? name = none := by
        intro name hname
        rw [hkeeps.span?_eq fun hmem => hdisjoint name hmem name hname rfl]
        exact hnone name (List.mem_append_right _ hname)
      obtain ⟨taken, left, hsplit, htaken, hleft⟩ := ih hnodup hnone' h
      refine ⟨token :: taken, left, congrArg (token :: ·) hsplit, ?_, hleft⟩
      refine List.forall_mem_cons.2 ⟨fun name hname => ?_, htaken⟩
      exact (Expr.keeps_of_mem_runs h).isSome_span? (isSome_span?_of_mem_runs_exprs hname htoken)
    · -- The group is left out, and all groups inside of it with it.
      refine ⟨[], token :: run, rfl, by simp, fun t ht name hname => ?_⟩
      have hmem : name ∈ (token :: run).flatMap Token.groupNames :=
        List.mem_flatMap.2 ⟨t, ht, Token.mem_groupNames_of_mem_name? hname⟩
      rw [List.flatMap_cons] at hmem
      simp only [hnone name hmem, Option.isSome_none]

/-- The variables with a group around them are what the expression ends with. -/
theorem exists_bodyExprs_eq (hvar : ∀ token ∈ run, token.name?.isSome) :
    ∃ xs, bodyExprs before run = xs ++ nestedExprs (chain before run) := by
  cases before with
  | cons token before => exact ⟨(token :: before).flatMap Token.exprs, rfl⟩
  | nil =>
    cases run with
    | nil => exact ⟨[], rfl⟩
    | cons token run =>
      cases token with
      | text content => cases hvar _ List.mem_cons_self
      | var separator constraint name =>
        exact ⟨literals separator.toList ++ [.repetition 0 (some 1) true
          (.capture (some name) ((exprOfText? constraint).getD .empty))], by simp [bodyExprs, chain]⟩

theorem outsideIn_of_captures? (hvar : ∀ token ∈ run, token.name?.isSome)
    (hnodup : ((before ++ run).flatMap Token.groupNames).Nodup) {s : String} {value : Lookup}
    (h : (anchoredExpr (bodyExprs before run)).captures? s = some value) :
    OutsideIn (fun name => (value name).isSome) (chain before run) := by
  obtain ⟨r, hr, rfl⟩ := Expr.captures?_eq_some_iff.1 h
  obtain ⟨p, hp, hmem⟩ := Expr.exists_mem_runs_of_firstRun? hr
  obtain ⟨hmem, -⟩ := mem_runs_of_mem_runs_anchoredExpr hp hmem
  obtain ⟨xs, hxs⟩ := @exists_bodyExprs_eq before run hvar
  rw [← flatMap_groupNames_bodyExprs, hxs, List.flatMap_append, flatMap_groupNames_nestedExprs] at hnodup
  obtain ⟨-, hnodup, hdisjoint⟩ := List.nodup_append.1 hnodup
  rw [hxs, Expr.mem_runs_ofItems_append] at hmem
  obtain ⟨t, hfront, hmem⟩ := hmem
  have hkeeps := Expr.keeps_of_mem_runs hfront
  rw [Expr.groupNames_ofItems] at hkeeps
  have hnone : ∀ name ∈ (chain before run).flatMap Token.groupNames, t.span? name = none := by
    intro name hname
    rw [hkeeps.span?_eq fun hmem => hdisjoint name hmem name hname rfl]
    rfl
  have hrun := outsideIn_of_mem_runs_nestedExprs hnodup hnone hmem
  simpa only [Run.lookup_texts, Option.isSome_map] using hrun

/-! ### All tokens -/

/-- **The expression of any list of tokens is a cascade of optional groups.** -/
theorem cascade_assemble (optional : List String) (tokens : List Token) : Cascade optional tokens := by
  obtain ⟨before, run, rfl, hrun, hlast, hfirst⟩ := exists_optionalRun optional tokens
  have hvar : ∀ token ∈ run, token.name?.isSome := fun token htoken =>
    Token.isSome_name?_of_isOneOf (hrun token htoken)
  have hcut : (firstOptional optional (before ++ run)).getD (before ++ run).length = before.length := by
    rw [hfirst]
    split
    · next hnil => rw [hnil, List.append_nil, Option.getD_none]
    · rw [Option.getD_some]
  have hbeforeRun : beforeRun optional (before ++ run) = before := by
    rw [beforeRun, hcut, List.take_left]
  have hoptionalRun : optionalRun optional (before ++ run) = run := by
    rw [optionalRun, hcut, List.drop_left]
  constructor
  · rwa [hoptionalRun]
  · rwa [hbeforeRun]
  · rw [hbeforeRun, hoptionalRun, hfirst, assemble_eq_cascade hvar]
  · rw [hbeforeRun, hoptionalRun, hfirst, openGroups_eq_length_chain hvar]
  · intro hreadable hnodup
    rw [hbeforeRun, hoptionalRun, hfirst]
    exact ⟨_, exprOfText?_assemble hvar hreadable hnodup, fun s value hcaptures =>
      outsideIn_of_captures? hvar hnodup hcaptures⟩

/-- An archive, whose year, month and day may be missing. -/
def archiveTokens : List Token :=
  [.text "/archive", .var (some '/') "[0-9]+" "year", .var (some '-') "[0-9]+" "month",
    .var (some '-') "[0-9]+" "day"]

/-- There is no day without a month, and no month without a year. If all tokens are optional, there is no group
around the first one. -/
theorem cascade_assemble_archive :
    (assemble archiveTokens (firstOptional ["day", "month", "year"] archiveTokens) =
        "^/archive(?:/(?<year>[0-9]+)(?:\\-(?<month>[0-9]+)(?:\\-(?<day>[0-9]+))?)?)?$" ∧
      ∃ e, exprOfText?
          "^/archive(?:/(?<year>[0-9]+)(?:\\-(?<month>[0-9]+)(?:\\-(?<day>[0-9]+))?)?)?$" = some e ∧
        ∀ s value, e.captures? s = some value →
          OutsideIn (fun name => (value name).isSome) archiveTokens.tail) ∧
      assemble archiveTokens.tail (firstOptional ["day", "month", "year"] archiveTokens.tail) =
        "^/(?<year>[0-9]+)?(?:\\-(?<month>[0-9]+)(?:\\-(?<day>[0-9]+))?)?$" := by
  have hcascade := cascade_assemble ["day", "month", "year"] archiveTokens
  have htext : assemble archiveTokens (firstOptional ["day", "month", "year"] archiveTokens) =
      "^/archive(?:/(?<year>[0-9]+)(?:\\-(?<month>[0-9]+)(?:\\-(?<day>[0-9]+))?)?)?$" :=
    hcascade.assemble_eq.trans (by decide +kernel)
  have hoptional := hcascade.outsideIn (by decide +kernel) (by decide +kernel)
  rw [htext] at hoptional
  exact ⟨⟨htext, hoptional⟩, (cascade_assemble _ archiveTokens.tail).assemble_eq.trans (by decide +kernel)⟩

end RoutePatterns
