import RoutePatterns.Proofs.Regex.Finish
import RoutePatterns.Proofs.Route.Layout

/-!
# The regular expressions of a route without overrides

Without overrides, the regular expressions of a route are ones, and their groups are named after its
variables, if and only if all names of placeholders can be names of groups (`matcher_of_compile`). There
are word characters that no name of a group may have, and some that it may have but not begin with, so
there are placeholders whose regular expression is none (`compiled_without_matcher`).
-/

namespace RoutePatterns

open Regex

/-! ### Names that the reader comes to -/

namespace Regex

/-- What can be read as the name of a group is one. -/
theorem isGroupName_of_groupName? {name : String} {t : List Char} (hname : '>' ∉ name.toList)
    (h : (groupName? (name.toList ++ '>' :: t)).isSome) : IsGroupName name := by
  have hkeep : ∀ d ∈ name.toList, (d != '>') = true := by
    intro d hd
    rw [bne_iff_ne]
    rintro rfl
    exact hname hd
  have htake (t : List Char) : (name.toList ++ '>' :: t).takeWhile (· != '>') = name.toList := by
    rw [List.takeWhile_append_of_pos hkeep]
    simp
  have hdrop (t : List Char) : (name.toList ++ '>' :: t).dropWhile (· != '>') = '>' :: t := by
    rw [List.dropWhile_append_of_pos hkeep]
    simp
  rw [groupName?, htake, hdrop] at h
  rw [IsGroupName, groupName?, htake, hdrop]
  cases hcs : name.toList with
  | nil => simp [hcs] at h
  | cons c cs =>
    simp only [hcs] at h ⊢
    split at h
    · next hrest => rw [if_pos hrest, ← hcs, String.ofList_toList]
    · cases h

namespace Reader

variable {r : Reader} {t : List Char}

/-- A named group that is read has the name of a group. -/
theorem Finishes.isGroupName {name : String} (hr : r.Literal) (hname : '>' ∉ name.toList)
    (h : Finishes r ('(' :: '?' :: '<' :: (name.toList ++ '>' :: t))) : IsGroupName name := by
  have hskip : skip r.verbose ('(' :: '?' :: '<' :: (name.toList ++ '>' :: t)) =
      '(' :: '?' :: '<' :: (name.toList ++ '>' :: t) := by
    rw [hr.verbose]
    rfl
  obtain ⟨r', cs', hstep, -⟩ := h.step hskip
  rcases step_eq_some_iff.1 hstep with ⟨-, l, hl, -⟩ | ⟨c, hclass, -⟩
  · rw [hr.verbose] at hl
    change ((groupName? (name.toList ++ '>' :: t)).map
      fun r => (Opening.group (.capture (some r.1)), r.2)).map (fun o => (Lexeme.enter o.1, o.2)) = _ at hl
    refine isGroupName_of_groupName? (t := t) hname ?_
    cases hread : groupName? (name.toList ++ '>' :: t) with
    | none => rw [hread] at hl; cases hl
    | some _ => rfl
  · rw [hr.inClass] at hclass
    cases hclass

end Reader

end Regex

namespace Regex.Reader

variable {part : Part} {r r' : Reader} {t : List Char} {token : Token} {tokens before run : List Token}

/-- Tokens with default constraints that are still to be read: their names can be written as names of
groups, and are different from each other and from those that the reader knows. -/
structure Unread (part : Part) (r : Reader) (tokens : List Token) : Prop where
  isDefault : ∀ token ∈ tokens, token.IsDefault part
  written : ∀ name ∈ Token.names tokens, '>' ∉ name.toList
  nodup : (Token.names tokens).Nodup
  new : ∀ name ∈ Token.names tokens, name ∉ r.names

/-- After some tokens, the others are still to be read. -/
theorem Unread.right (h : Unread part r (before ++ run)) {names : List String}
    (hnames : ∀ n ∈ names, n ∈ Token.names before) (hr' : r'.names = names ++ r.names) :
    Unread part r' run := by
  obtain ⟨hdefault, hwritten, hnodup, hnew⟩ := h
  rw [names_append] at hwritten hnodup hnew
  obtain ⟨-, hnodup, hdisjoint⟩ := List.nodup_append.1 hnodup
  constructor
  · intro token htoken
    exact hdefault token (List.mem_append_right _ htoken)
  · intro name hname
    exact hwritten name (List.mem_append_right _ hname)
  · exact hnodup
  · intro name hname hmem
    rw [hr'] at hmem
    rcases List.mem_append.1 hmem with hmem | hmem
    · exact hdisjoint name (hnames name hmem) name hname rfl
    · exact hnew name (List.mem_append_right _ hname) hmem

theorem Unread.left (h : Unread part r (before ++ run)) : Unread part r before := by
  obtain ⟨hdefault, hwritten, hnodup, hnew⟩ := h
  rw [names_append] at hwritten hnodup hnew
  constructor
  · intro token htoken
    exact hdefault token (List.mem_append_left _ htoken)
  · intro name hname
    exact hwritten name (List.mem_append_left _ hname)
  · exact (List.nodup_append.1 hnodup).1
  · intro name hname
    exact hnew name (List.mem_append_left _ hname)

/-- Where the fragment of a token is read, its name is the name of a group. -/
theorem Finishes.fragment (hr : r.Literal) (hunread : Unread part r [token])
    (h : Finishes r (token.fragment.toList ++ t)) :
    (∀ name ∈ Token.names [token], IsGroupName name) ∧
      ∃ names, (∀ n ∈ names, n ∈ Token.names [token]) ∧ Finishes (r.after token.parts names) t := by
  have hdefault := hunread.isDefault token List.mem_cons_self
  have hgroup : ∀ name ∈ token.name?, IsGroupName name := by
    cases token with
    | text content =>
      intro name hmem
      cases hmem
    | var separator constraint name =>
      intro other hother
      obtain rfl := Option.some.inj hother
      have htext : (Token.var separator constraint name).fragment.toList ++ t =
          separator.toList.flatMap quoteChar ++
            '(' :: '?' :: '<' :: (name.toList ++ '>' :: (constraint.toList ++ ')' :: t)) := by
        simp [Token.fragment, namedGroup, toList_quote]
      rw [htext] at h
      have hseparator := h.of_leads (leads_quote hr separator.toList _)
      exact hseparator.isGroupName (hr.after _ _) (hunread.written name List.mem_cons_self)
  have hnames : token.groupNames = Token.names [token] := by
    rw [hdefault.groupNames, names_cons]
    simp [Token.names]
  obtain ⟨names, hsub, hleads⟩ := leads_fragment hr (hdefault.readable hgroup)
    (hnames ▸ hunread.nodup) (hnames ▸ hunread.new)
  rw [hnames] at hsub
  refine ⟨?_, names, hsub, h.of_leads (hleads t)⟩
  intro name hname
  rw [names_cons] at hname
  exact hgroup name (by simpa [Token.names] using hname)

/-- Where the fragments of tokens are read, all their names are names of groups. -/
theorem Finishes.fragments (hr : r.Literal) (hunread : Unread part r tokens)
    (h : Finishes r ((String.join (tokens.map Token.fragment)).toList ++ t)) :
    (∀ name ∈ Token.names tokens, IsGroupName name) ∧ ∃ es names,
      (∀ n ∈ names, n ∈ Token.names tokens) ∧ Finishes (r.after es names) t := by
  induction tokens generalizing r with
  | nil =>
    refine ⟨fun name hname => (by cases hname), [], [], fun n hn => hn, ?_⟩
    rwa [List.map_nil, String.join_nil] at h
  | cons token tokens ih =>
    rw [List.map_cons, String.join_cons, String.toList_append, List.append_assoc] at h
    rw [← List.singleton_append] at hunread
    obtain ⟨htoken, names, hsub, hfinishes⟩ := h.fragment hr hunread.left
    obtain ⟨htokens, es, names', hsub', hfinishes⟩ :=
      ih (hr.after _ _) (hunread.right hsub rfl) hfinishes
    rw [← List.singleton_append, names_append]
    rw [after_after] at hfinishes
    refine ⟨?_, _, _, ?_, hfinishes⟩
    · intro name hname
      exact (List.mem_append.1 hname).elim (htoken name) (htokens name)
    · intro name hname
      exact List.mem_append.2 ((List.mem_append.1 hname).symm.imp (hsub name) (hsub' name))

/-- Where an optional run is read, all its names are names of groups. -/
theorem Finishes.nested (hr : r.Literal) (hunread : Unread part r tokens)
    (h : Finishes r ((nested tokens).toList ++ t)) :
    ∀ name ∈ Token.names tokens, IsGroupName name := by
  induction tokens generalizing r t with
  | nil =>
    intro name hname
    cases hname
  | cons token tokens ih =>
    have htext : (RoutePatterns.nested (token :: tokens)).toList ++ t = ['(', '?', ':'] ++
        (token.fragment.toList ++ ((RoutePatterns.nested tokens).toList ++ ')' :: '?' :: t)) := by
      simp [RoutePatterns.nested]
    rw [htext] at h
    -- The token stands at the beginning of a group, which holds the rest of the run as well.
    have hopen := h.of_leads (.step hr.verbose (step_plainGroup r hr.inClass hr.verbose _) (by simp; omega))
    rw [← List.singleton_append] at hunread
    have hinner : Unread part r.inPlainGroup ([token] ++ tokens) := ⟨hunread.1, hunread.2, hunread.3, hunread.4⟩
    obtain ⟨htoken, names, hsub, hfinishes⟩ := hopen.fragment hr.inPlainGroup hinner.left
    have htokens := ih (hr.inPlainGroup.after _ _) (hinner.right hsub rfl) hfinishes
    rw [← List.singleton_append, names_append]
    intro name hname
    exact (List.mem_append.1 hname).elim (htoken name) (htokens name)

/-- The reader after the beginning of an expression. -/
theorem finishes_of_read?_start {s : String} {e : Syntax}
    (h : Syntax.read? ("^" ++ s) = some e) : Finishes (after {} [.assertion .lineStart] []) s.toList := by
  have hstart : Leads {} ('^' :: s.toList) (after {} [.assertion .lineStart] []) s.toList :=
    leads_lexeme ⟨rfl, rfl⟩ (l := .part (.assertion .lineStart)) rfl rfl (Nat.le_refl _)
  have hfinishes := finishes_of_run h
  rw [String.toList_append] at hfinishes
  exact hfinishes.of_leads hstart

/-- **If the expression of a list of tokens is read, all names are names of groups.** -/
theorem isGroupName_of_read? {e : Syntax} (hvar : ∀ token ∈ run, token.name?.isSome)
    (hunread : Unread part {} (before ++ run))
    (h : Syntax.read? (assemble (before ++ run) (if run = [] then none else some before.length)) =
      some e) : ∀ name ∈ Token.names (before ++ run), IsGroupName name := by
  have hstart : Unread part (after {} [.assertion .lineStart] []) (before ++ run) :=
    ⟨hunread.1, hunread.2, hunread.3, hunread.4⟩
  cases run with
  | nil =>
    rw [if_pos rfl, assemble_none, String.append_assoc] at h
    have hfinishes := finishes_of_read?_start h
    rw [String.toList_append] at hfinishes
    exact (hfinishes.fragments ⟨rfl, rfl⟩ hstart).1
  | cons token run =>
    rw [if_neg (List.cons_ne_nil _ _)] at h
    by_cases hbefore : before = []
    · subst hbefore
      rw [List.nil_append, List.length_nil, assemble_cons hvar, String.append_assoc, String.append_assoc,
        String.append_assoc] at h
      have hfinishes := finishes_of_read?_start h
      rw [String.toList_append, String.toList_append, String.toList_append] at hfinishes
      rw [List.nil_append, ← List.singleton_append] at hstart ⊢
      obtain ⟨hname, names, hsub, hfinishes⟩ := hfinishes.fragment ⟨rfl, rfl⟩ hstart.left
      cases token with
      | text content => cases hvar _ List.mem_cons_self
      | var separator constraint name =>
        -- The first variable has no group around it, only a question mark after it.
        obtain ⟨c, t, htail, hc⟩ := nested_append_eq_cons run
        have hitems : (after (after {} [.assertion .lineStart] [])
            (Token.var separator constraint name).parts names).items =
              .group (.capture (some name)) ((Syntax.read? constraint).getD .empty) ::
                ((separator.toList.map literal).reverse ++ [.assertion .lineStart]) := by
          simp [Reader.after, Token.parts]
        have hoptional := leads_optional (t := t) ⟨rfl, rfl⟩ hitems rfl hc
        rw [← htail] at hoptional
        have hnames := (hfinishes.of_leads hoptional).nested ⟨rfl, rfl⟩ (hstart.right hsub rfl)
        rw [names_append]
        intro n hn
        exact (List.mem_append.1 hn).elim (hname n) (hnames n)
    · rw [assemble_append hbefore hvar, String.append_assoc, String.append_assoc] at h
      have hfinishes := finishes_of_read?_start h
      rw [String.toList_append, String.toList_append] at hfinishes
      obtain ⟨hnames, es, names, hsub, hfinishes⟩ := hfinishes.fragments ⟨rfl, rfl⟩ hstart.left
      have hnames' := hfinishes.nested ⟨rfl, rfl⟩ (hstart.right hsub rfl)
      rw [names_append]
      intro name hname
      exact (List.mem_append.1 hname).elim (hnames name) (hnames' name)

end Regex.Reader

/-- The names of the groups in the expression of tokens with default constraints are those of the
variables. -/
theorem groupNames_anchoredExpr_bodyExprs {part : Part} {before run : List Token}
    (h : ∀ token ∈ before ++ run, token.IsDefault part) :
    (anchoredExpr (bodyExprs before run)).groupNames = Token.names (before ++ run) := by
  rw [anchoredExpr, Expr.groupNames_ofItems, List.flatMap_append, List.flatMap_cons,
    flatMap_groupNames_bodyExprs, Token.flatMap_groupNames_of_isDefault h]
  simp [Expr.groupNames]

/-! ### Routes -/

/-- A text is an anchored regular expression whose groups are named after the variables, if the names can
be names of groups; if one of them cannot be, the text is no regular expression. -/
structure IsMatcher (regex : String) (names : List String) : Prop where
  anchored : ∃ body, regex = "^" ++ body ++ "$"
  groupNames : (∀ name ∈ names, IsGroupName name) → ∃ e, exprOfText? regex = some e ∧ e.groupNames = names
  isGroupName : ∀ name ∈ names, ¬ IsGroupName name → exprOfText? regex = none

variable {part : Part} {overrides : Lookup} {optional : List String} {pattern : String}
  {p : CompiledPart} {q : Pattern} {r : Route}

/-- The names of the variables are words. -/
theorem word_of_mem_names (h : compilePart part overrides optional pattern = .ok p) {name : String}
    (hname : name ∈ p.names) : ∀ c ∈ name.toList, Unicode.isWord c = true := by
  obtain ⟨-, rfl⟩ := compilePart_eq_ok h
  have hslot : name ∈ slotNames .plain pattern := names_tokens part overrides pattern ▸ hname
  exact (isSlotName_of_mem_slotNames hslot).2

theorem isMatcher_of_compilePart (hnone : ∀ name, overrides name = none)
    (h : compilePart part overrides optional pattern = .ok p) : IsMatcher p.regex p.names := by
  obtain ⟨before, run, hlayout⟩ := exists_layout h
  have hdefault : ∀ token ∈ before ++ run, token.IsDefault part := by
    obtain ⟨-, rfl⟩ := compilePart_eq_ok h
    intro token htoken
    have hmem : token ∈ tokens part overrides pattern := by
      rw [← hlayout.tokens] at htoken
      exact htoken
    exact (isConstrained_of_mem_tokens token hmem).isDefault hnone
  have hunread : Reader.Unread part {} (before ++ run) := by
    refine ⟨hdefault, ?_, hlayout.nodup, fun name _ => List.not_mem_nil⟩
    intro name hname hmem
    rw [← hlayout.names] at hname
    have hword := word_of_mem_names h hname '>' hmem
    cases hword
  have hregex := hlayout.regex
  rw [hlayout.names]
  constructor
  · rw [hregex, assemble]
    exact ⟨_, congrArg (· ++ "$") String.append_assoc⟩
  · intro hnames
    have hexpr := hlayout.exprOfText?_of_plain ⟨hdefault, hnames⟩
    exact ⟨_, hexpr, groupNames_anchoredExpr_bodyExprs hdefault⟩
  · intro name hname hnot
    cases hread : Syntax.read? p.regex with
    | none => rw [exprOfText?, hread]; rfl
    | some e =>
      have hvar : ∀ token ∈ run, token.name?.isSome := by
        intro token htoken
        exact Token.isSome_name?_of_isOneOf (hlayout.isOneOf token htoken)
      rw [hregex] at hread
      exact absurd (Reader.isGroupName_of_read? hvar hunread hread name hname) hnot

/-- **The regular expressions of a route without overrides are ones, with a group for each variable**, if
the names are names of groups, and only then. -/
theorem matcher_of_compile (hcompile : compile q = .ok r) (hoverrides : q.overrides = .empty) :
    IsMatcher r.pathRegex r.pathVariables ∧
      (q.host ≠ "" → IsMatcher r.hostRegex r.hostVariables) := by
  have hnone : ∀ name, q.overrides.get? name = none := by
    intro name
    rw [hoverrides]
    rfl
  obtain ⟨host, path, hhost, hpath, rfl⟩ := compile_eq_ok hcompile
  constructor
  · exact isMatcher_of_compilePart hnone hpath
  · intro hne
    rw [compileHost, if_neg (by simpa using hne)] at hhost
    exact isMatcher_of_compilePart hnone hhost

/-- A calendar of each country; its names are not ASCII. -/
def calendarPattern : Pattern where
  host := "{país}.example.org"
  path := "/{año}/{mes?}/{día?}"

/-- What `calendarPattern` is compiled to. -/
def calendarRoute : Route where
  staticPrefix := ""
  pathRegex := "^/(?<año>[^/]+)(?:/(?<mes>[^/]+)(?:/(?<día>[^/]+))?)?$"
  pathTokens := [.var (some '/') "[^/]+" "año", .var (some '/') "[^/]+" "mes",
    .var (some '/') "[^/]+" "día"]
  pathVariables := ["año", "mes", "día"]
  optionalVariables := ["mes", "día"]
  hostRegex := "^(?<país>[^\\.]+)\\.example\\.org$"
  hostTokens := [.var none "[^\\.]+" "país", .text ".example.org"]
  hostVariables := ["país"]
  allVariables := ["país", "año", "mes", "día"]

theorem matcher_of_compile_calendar :
    compile calendarPattern = .ok calendarRoute ∧
      (∃ e, exprOfText? calendarRoute.pathRegex = some e ∧ e.groupNames = ["año", "mes", "día"]) ∧
      ∃ e, exprOfText? calendarRoute.hostRegex = some e ∧ e.groupNames = ["país"] := by
  have hcompile : compile calendarPattern = .ok calendarRoute := by decide +kernel
  obtain ⟨hpath, hhost⟩ := matcher_of_compile hcompile rfl
  exact ⟨hcompile, hpath.groupNames (by decide +kernel),
    (hhost (by decide)).groupNames (by decide +kernel)⟩

/-- A pattern without overrides that is compiled to a regular expression that is none. -/
def WithoutMatcher (q : Pattern) : Prop :=
  q.overrides = .empty ∧ ∃ r, compile q = .ok r ∧ exprOfText? r.pathRegex = none

theorem withoutMatcher_of_eq {q : Pattern} (r : Route) (hoverrides : q.overrides = .empty)
    (hcompile : compile q = .ok r) (hregex : exprOfText? r.pathRegex = none) : WithoutMatcher q :=
  ⟨hoverrides, r, hcompile, hregex⟩

/-- A name with a mark that is no letter, one that begins with a digit other than those of ASCII, and one
with a connector other than the underscore. -/
theorem compiled_without_matcher :
    WithoutMatcher { path := "/{हिन्दी}" } ∧ WithoutMatcher { path := "/{٣}" } ∧
      WithoutMatcher { path := "/{a‿b}" } := by
  have hofCompile {q : Pattern} := @withoutMatcher_of_eq q ((compile q).toOption.getD default)
  refine ⟨hofCompile ?_ ?_ ?_, hofCompile ?_ ?_ ?_, hofCompile ?_ ?_ ?_⟩
  all_goals decide +kernel

end RoutePatterns
