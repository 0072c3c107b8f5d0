import RoutePatterns.Proofs.Pattern.Occurrence
import RoutePatterns.Proofs.Route.Printed

/-!
# The optional variables of a path

Which variables of a route may be missing can be read off its path as it is written: a name belongs to
them exactly if its placeholder is marked, and nothing but marked placeholders comes after it, each of them
after at most one separator (`MarkedRun`). They are listed in the order in which they are written, and the
host has no part in it (`optionalVariables_of_compile`).

Both directions go through the pieces of the path. A compiled path writes every name once, so the path is
its pieces, written with the marks of the marked names (`flatMap_written_pieces`), and the pieces of the
optional run are a `MarkedTail` (`markedTail_of_isOneOf`). Conversely the pieces of a `MarkedTail` are
compiled to variables only (`tokensAfter_of_markedTail`).
-/

namespace RoutePatterns

/-- A text of marked placeholders of `names`, where at most one separator stands before each of them. -/
inductive MarkedTail : List String → List Char → Prop
  | nil : MarkedTail [] []
  | cons {separator : Option Char} {name : String} {names : List String} {cs : List Char}
      (hseparator : ∀ c ∈ separator, isSeparator c = true) (hname : IsSlotName name)
      (htail : MarkedTail names cs) :
    MarkedTail (name :: names)
      (separator.toList ++ '\x7b' :: (name.toList ++ (SlotEnd.optional.chars ++ cs)))

/-- A text that begins with the marked placeholder of `name` and goes on with those of `names`. -/
def MarkedRun (name : String) (names : List String) (cs : List Char) : Prop :=
  IsSlotName name ∧ ∃ tail,
    cs = '\x7b' :: (name.toList ++ (SlotEnd.optional.chars ++ tail)) ∧ MarkedTail names tail

/-- The optional variables of a route are what is read off its path. -/
structure ReadOff (path : String) (r : Route) : Prop where
  /-- A name belongs to them if it begins a run of marked placeholders to the end of the path. -/
  mem_iff : ∀ name, name ∈ r.optionalVariables ↔
    ∃ before run names, path.toList = before ++ run ∧ MarkedRun name names run
  /-- They are listed in the order in which they are written. -/
  suffix_iff : ∀ name names, name :: names <:+ r.optionalVariables ↔
    ∃ before run, path.toList = before ++ run ∧ MarkedRun name names run
  /-- They are the last ones of the variables of the path. -/
  suffix : r.optionalVariables <:+ r.pathVariables

variable {c : Char} {cs before rest : List Char} {name : String} {names optional : List String}
  {pieces : List Piece} {part : Part} {overrides : Lookup} {reversed : List Char} {tokens : List Token}

/-! ### Marked names -/

/-- The names of the marked placeholders of a path, from left to right. -/
def markedNames (cs : List Char) : List String := (scanAfter .optional 0 cs).filterMap Piece.name?

theorem markedNames_char (h : slotName? .optional (c :: cs) = none) :
    markedNames (c :: cs) = markedNames cs := by
  rw [markedNames, scanAfter_char h, markedNames]
  rfl

theorem markedNames_marked (hname : IsSlotName name) (cs : List Char) :
    markedNames ('\x7b' :: (name.toList ++ (SlotEnd.optional.chars ++ cs))) =
      name :: markedNames cs := by
  rw [markedNames, scanAfter_slot hname, markedNames]
  rfl

theorem markedNames_plain (hname : IsSlotName name) (cs : List Char) :
    markedNames ('\x7b' :: (name.toList ++ (SlotEnd.plain.chars ++ cs))) = markedNames cs := by
  rw [markedNames, scanAfter_of_ending_ne hname (by decide), List.filterMap_append,
    Piece.filterMap_name?_map_char, markedNames]
  rfl

theorem markedNames_append_brace (before rest : List Char) :
    markedNames (before ++ '\x7b' :: rest) = markedNames before ++ markedNames ('\x7b' :: rest) := by
  rw [markedNames, scanAfter_append_brace, List.filterMap_append, markedNames, markedNames]

/-- A marked name is a name of the path. -/
theorem mem_names_of_mem_markedNames (h : name ∈ markedNames cs) : name ∈ Part.path.names cs := by
  induction cs using slot_induction Part.path.endings with
  | nil => cases h
  | char c cs hnone ih =>
    rw [markedNames_char (hnone .optional Part.optional_mem_endings)] at h
    rw [Part.names, Part.pieces_char hnone]
    exact ih h
  | slot ending hending other cs hother ih =>
    rw [Part.names, Part.pieces_slot hending hother]
    cases ending with
    | plain =>
      rw [markedNames_plain hother] at h
      exact List.mem_cons_of_mem _ (ih h)
    | optional =>
      rw [markedNames_marked hother] at h
      rcases List.mem_cons.1 h with rfl | h
      · exact List.mem_cons_self
      · exact List.mem_cons_of_mem _ (ih h)

/-! ### A path is its pieces with the marks of the marked names -/

theorem flatMap_written_congr {endings endings' : String → SlotEnd}
    (h : ∀ name ∈ pieces.filterMap Piece.name?, endings name = endings' name) :
    pieces.flatMap (Piece.written endings) = pieces.flatMap (Piece.written endings') := by
  induction pieces with
  | nil => rfl
  | cons piece pieces ih =>
    cases piece with
    | char c =>
      rw [List.flatMap_cons, List.flatMap_cons, ih h]
      rfl
    | slot name =>
      obtain ⟨hname, hpieces⟩ := List.forall_mem_cons.1 h
      rw [List.flatMap_cons, List.flatMap_cons, ih hpieces, Piece.written, Piece.written, hname]

/-- **A path in which no name comes twice is its pieces**, written with the marks of the marked names. -/
theorem flatMap_written_pieces (h : (Part.path.names cs).Nodup) :
    (Part.path.pieces cs).flatMap (Piece.written (endingOf (markedNames cs))) = cs := by
  induction cs using slot_induction Part.path.endings with
  | nil => rw [Part.pieces_nil, List.flatMap_nil]
  | char c cs hnone ih =>
    rw [Part.names, Part.pieces_char hnone] at h
    rw [Part.pieces_char hnone, markedNames_char (hnone .optional Part.optional_mem_endings), List.flatMap_cons,
      ih h]
    rfl
  | slot ending hending name cs hname ih =>
    rw [Part.names, Part.pieces_slot hending hname] at h
    obtain ⟨hnew, hnodup⟩ : name ∉ Part.path.names cs ∧ (Part.path.names cs).Nodup :=
      List.nodup_cons.1 h
    rw [Part.pieces_slot hending hname, List.flatMap_cons]
    cases ending with
    | plain =>
      have hplain : endingOf (markedNames cs) name = .plain :=
        if_neg fun hmem => hnew (mem_names_of_mem_markedNames hmem)
      rw [markedNames_plain hname, ih hnodup, Piece.written, hplain]
      simp
    | optional =>
      -- The name itself does not come again, so its mark makes no difference for the other names.
      have hrest : (Part.path.pieces cs).flatMap
          (Piece.written (endingOf (name :: markedNames cs))) = cs := by
        refine (flatMap_written_congr fun other hother => ?_).trans (ih hnodup)
        have hne : other ≠ name := fun heq => hnew (heq ▸ hother)
        simp [endingOf, hne]
      have hmarked : endingOf (name :: markedNames cs) name = .optional :=
        if_pos List.mem_cons_self
      rw [markedNames_marked hname, hrest, Piece.written, hmarked]
      simp

/-! ### The optional run is a marked tail -/

/-- A variable of `optional` is written as a marked placeholder after its separator. -/
theorem flatMap_written_var (hname : name ∈ optional) (separator : Option Char) (constraint : String)
    (tokens : List Token) :
    ((Token.var separator constraint name :: tokens).flatMap Token.pieces).flatMap
        (Piece.written (endingOf optional)) =
      separator.toList ++ '\x7b' :: (name.toList ++ (SlotEnd.optional.chars ++
        (tokens.flatMap Token.pieces).flatMap (Piece.written (endingOf optional)))) := by
  rw [List.flatMap_cons, List.flatMap_append, Token.pieces, List.flatMap_append,
    Piece.flatMap_written_map_char]
  simp [Piece.written, endingOf, hname]

/-- Variables of `optional` are written as a marked tail. -/
theorem markedTail_of_isOneOf {run : List Token} (hrun : ∀ token ∈ run, token.isOneOf optional = true)
    (hseparator : ∀ separator constraint name, .var separator constraint name ∈ run →
      ∀ c ∈ separator, isSeparator c = true)
    (hnames : ∀ name ∈ Token.names run, IsSlotName name) :
    MarkedTail (Token.names run)
      ((run.flatMap Token.pieces).flatMap (Piece.written (endingOf optional))) := by
  induction run with
  | nil => exact .nil
  | cons token run ih =>
    obtain ⟨hfirst, hrest⟩ := List.forall_mem_cons.1 hrun
    obtain ⟨separator, constraint, name, rfl, hname⟩ := Token.isOneOf_iff.1 hfirst
    obtain ⟨hslot, hslots⟩ := List.forall_mem_cons.1 hnames
    have htail := ih hrest (fun s c n hmem => hseparator s c n (List.mem_cons_of_mem _ hmem)) hslots
    rw [flatMap_written_var hname]
    exact .cons (hseparator separator constraint name List.mem_cons_self) hslot htail

/-! ### A marked tail is compiled to variables -/

/-- The pieces of a marked placeholder and the separator before it. -/
theorem pieces_marked {separator : Option Char} (hseparator : ∀ c ∈ separator, isSeparator c = true)
    (hname : IsSlotName name) (constraint : String) (cs : List Char) :
    Part.path.pieces
        (separator.toList ++ '\x7b' :: (name.toList ++ (SlotEnd.optional.chars ++ cs))) =
      Token.pieces (.var separator constraint name) ++ Part.path.pieces cs := by
  have hslot := Part.pieces_slot Part.optional_mem_endings hname cs
  cases separator with
  | none =>
    rw [Option.toList_none, List.nil_append, hslot]
    rfl
  | some s =>
    have hs : s ≠ '\x7b' := (ne_brace_of_isSeparator (hseparator s rfl)).1
    rw [Option.toList_some, List.singleton_append, Part.pieces_of_ne hs, hslot]
    rfl

theorem tokensAfter_of_markedTail (h : MarkedTail names cs) (overrides : Lookup) :
    Token.names (tokensAfter .path overrides [] (Part.path.pieces cs)) = names ∧
      ∀ token ∈ tokensAfter .path overrides [] (Part.path.pieces cs), token.name?.isSome := by
  induction h with
  | nil =>
    rw [Part.pieces_nil]
    exact ⟨rfl, fun token htoken => by cases htoken⟩
  | @cons separator name names cs hseparator hname _ ih =>
    obtain ⟨hnames, hvar⟩ := ih
    have htokens : tokensAfter .path overrides [].reverse
        (Token.pieces (.var separator "" name) ++ Part.path.pieces cs) = _ :=
      tokensAfter_pieces_var hseparator fun _ c hc => by cases hc
    rw [List.reverse_nil] at htokens
    rw [pieces_marked hseparator hname "", htokens, textToken, List.isEmpty_nil, if_pos rfl,
      List.nil_append]
    constructor
    · rw [← hnames]
      rfl
    · exact List.forall_mem_cons.2 ⟨rfl, hvar⟩

theorem MarkedTail.subset_markedNames (h : MarkedTail names cs) :
    ∀ name ∈ names, name ∈ markedNames cs := by
  induction h with
  | nil =>
    intro name hmem
    cases hmem
  | @cons separator name names cs _ hname _ ih =>
    rw [markedNames_append_brace, markedNames_marked hname]
    intro other hother
    refine List.mem_append_right _ ?_
    rcases List.mem_cons.1 hother with rfl | hother
    · exact List.mem_cons_self
    · exact List.mem_cons_of_mem _ (ih other hother)

/-! ### Reading the variables off -/

/-- Variables of `optional` at the end of the tokens are in the optional run. -/
theorem names_suffix_optionalVariables {front run : List Token} {names : List String} {regex : String}
    (hrun : ∀ token ∈ run, token.isOneOf optional = true) (htokens : tokens = front ++ run) :
    Token.names run <:+
      CompiledPart.optionalVariables ⟨tokens, names, regex, firstOptional optional tokens⟩ := by
  rw [optionalVariables_firstOptional, htokens, List.reverse_append,
    List.takeWhile_append_of_pos fun token htoken => hrun token (List.mem_reverse.1 htoken),
    List.reverse_append, List.reverse_reverse, names_append]
  exact List.suffix_append _ _

theorem eq_of_forall_suffix_iff {α : Type} {l l' : List α}
    (h : ∀ a t, a :: t <:+ l ↔ a :: t <:+ l') : l = l' := by
  have hsub {l l' : List α} (h : ∀ a t, a :: t <:+ l → a :: t <:+ l') : l <:+ l' := by
    cases l with
    | nil => exact List.nil_suffix
    | cons a t => exact h a t List.suffix_rfl
  have hle : l <:+ l' := hsub fun a t => (h a t).1
  have hge : l' <:+ l := hsub fun a t => (h a t).2
  exact hle.eq_of_length (Nat.le_antisymm hle.length_le hge.length_le)

variable {path host : String} {p : CompiledPart} {r : Route}

theorem optionalNames_eq (path : String) : optionalNames path = markedNames path.toList := rfl

theorem scan_withoutMarks (path : String) : scan .plain (withoutMarks path) = Part.path.pieces path.toList :=
  Part.path.scan_unmarked path

/-- A compiled path is its tokens, written with the marks of the marked names. -/
theorem toList_path_of_compilePath (h : compilePath overrides path = .ok p) :
    path.toList = (p.tokens.flatMap Token.pieces).flatMap
      (Piece.written (endingOf (optionalNames path))) := by
  have hpieces : p.tokens.flatMap Token.pieces = Part.path.pieces path.toList := by
    rw [tokens_of_compilePath h, flatMap_pieces_tokens, scan_withoutMarks]
  have hnodup : (Part.path.names path.toList).Nodup := by
    obtain ⟨hcheck, -⟩ := compilePart_eq_ok h
    obtain ⟨hnames, hnodup, -⟩ := of_variableNames hcheck
    rw [← Part.slotNames_unmarked]
    exact hnames ▸ hnodup
  rw [hpieces, optionalNames_eq, flatMap_written_pieces hnodup]

/-- At every variable of the optional run, the tokens go on with variables only. -/
theorem Layout.exists_tokens_eq {front run : List Token} (h : Layout p front run)
    (hsuffix : name :: names <:+ p.optionalVariables) :
    ∃ earlier separator constraint rest,
      p.tokens = earlier ++ .var separator constraint name :: rest ∧
        Token.names rest = names ∧ ∀ token ∈ rest, token.name?.isSome := by
  obtain ⟨known, hnames⟩ := h.optional ▸ hsuffix
  obtain ⟨run₁, run₂, rfl, -, hrun₂⟩ := List.filterMap_eq_append_iff.1 hnames.symm
  obtain ⟨run₃, token, rest, rfl, -, htoken, hrest⟩ := List.filterMap_eq_cons_iff.1 hrun₂
  cases token with
  | text content => cases htoken
  | var separator constraint other =>
    obtain rfl := Option.some.inj htoken
    refine ⟨front ++ run₁ ++ run₃, separator, constraint, rest, ?_, hrest, fun token hmem => ?_⟩
    · rw [h.tokens]
      simp
    · exact Token.isSome_name?_of_isOneOf (h.isOneOf token (by simp [hmem]))

/-- The path goes on with marked placeholders at every variable of the optional run. -/
theorem exists_markedRun (h : compilePath overrides path = .ok p)
    (hsuffix : name :: names <:+ p.optionalVariables) :
    ∃ before run, path.toList = before ++ run ∧ MarkedRun name names run := by
  obtain ⟨_, _, hlayout⟩ := exists_layout h
  obtain ⟨earlier, separator, constraint, rest, htokens, rfl, hvar⟩ := hlayout.exists_tokens_eq hsuffix
  have hmarked : ∀ n ∈ name :: Token.names rest, n ∈ optionalNames path := fun n hn =>
    (mem_of_mem_optionalVariables h n (hsuffix.subset hn)).2
  have hslots : ∀ n ∈ name :: Token.names rest, IsSlotName n := by
    intro n hn
    have hmem : n ∈ Token.names p.tokens := by
      rw [htokens, names_append]
      exact List.mem_append_right _ hn
    rw [tokens_of_compilePath h, names_tokens] at hmem
    exact isSlotName_of_mem_slotNames hmem
  have hseparator : ∀ s c n, .var s c n ∈ rest → ∀ c ∈ s, isSeparator c = true := by
    intro s c n hmem
    have hmem : .var s c n ∈ p.tokens := by
      rw [htokens]
      exact List.mem_append_right _ (List.mem_cons_of_mem _ hmem)
    rw [tokens_of_compilePath h] at hmem
    exact separator_of_mem_tokensAfter hmem
  obtain ⟨hname, hnames⟩ := List.forall_mem_cons.1 hmarked
  obtain ⟨hslot, hslots⟩ := List.forall_mem_cons.1 hslots
  have htext := toList_path_of_compilePath h
  rw [htokens, List.flatMap_append, List.flatMap_append, flatMap_written_var hname,
    ← List.append_assoc] at htext
  exact ⟨_, _, htext, hslot, _, rfl,
    markedTail_of_isOneOf (isOneOf_of_names hvar hnames) hseparator hslots⟩

/-- A run of marked placeholders to the end of the path is in the optional run. -/
theorem suffix_of_markedRun (h : compilePath overrides path = .ok p) {run : List Char}
    (hpath : path.toList = before ++ run) (hrun : MarkedRun name names run) :
    name :: names <:+ p.optionalVariables := by
  obtain ⟨hname, tail, rfl, htail⟩ := hrun
  obtain ⟨-, rfl⟩ := compilePart_eq_ok h
  obtain ⟨hnames, hvar⟩ := tokensAfter_of_markedTail htail overrides
  obtain ⟨front, separator, htokens⟩ := exists_tokensAfter_append_slot .path overrides []
    (Part.path.pieces before) name (Part.path.pieces tail)
  rw [← Part.pieces_append_slot Part.optional_mem_endings hname, ← hpath,
    ← scan_withoutMarks] at htokens
  have hmarked : ∀ n ∈ name :: names, n ∈ optionalNames path := by
    rw [optionalNames_eq, hpath, markedNames_append_brace, markedNames_marked hname]
    intro n hn
    refine List.mem_append_right _ ?_
    rcases List.mem_cons.1 hn with rfl | hn
    · exact List.mem_cons_self
    · exact List.mem_cons_of_mem _ (htail.subset_markedNames n hn)
  have hvars : ∀ token ∈ .var separator
      (constraintFor .path overrides name (Part.path.pieces tail)) name ::
        tokensAfter .path overrides [] (Part.path.pieces tail), token.name?.isSome :=
    List.forall_mem_cons.2 ⟨rfl, hvar⟩
  rw [← hnames] at hmarked ⊢
  exact names_suffix_optionalVariables (isOneOf_of_names hvars hmarked) htokens

theorem suffix_optionalVariables_iff (h : compilePath overrides path = .ok p) :
    name :: names <:+ p.optionalVariables ↔
      ∃ before run, path.toList = before ++ run ∧ MarkedRun name names run := by
  constructor
  · exact exists_markedRun h
  · rintro ⟨before, run, hpath, hrun⟩
    exact suffix_of_markedRun h hpath hrun

theorem readOff_of_compilePath (h : compilePath overrides path = .ok p) (host : CompiledPart) :
    ReadOff path (Route.ofParts host p) := by
  have hiff (name : String) (names : List String) := @suffix_optionalVariables_iff name names _ _ _ h
  refine ⟨fun name => ?_, hiff, ?_⟩
  · constructor
    · intro hname
      obtain ⟨earlier, names, heq⟩ := List.append_of_mem hname
      obtain ⟨before, run, hpath, hrun⟩ := (hiff name names).1 ⟨earlier, heq.symm⟩
      exact ⟨before, run, names, hpath, hrun⟩
    · rintro ⟨before, run, names, hpath, hrun⟩
      have hsuffix := (hiff name names).2 ⟨before, run, hpath, hrun⟩
      exact hsuffix.subset List.mem_cons_self
  · obtain ⟨front, run, hlayout⟩ := exists_layout h
    show p.optionalVariables <:+ p.names
    rw [hlayout.optional, hlayout.names, names_append]
    exact List.suffix_append _ _

/-- **The optional variables of a route are read off its path**, whatever its host and its overrides. -/
theorem optionalVariables_of_compile (h : compileWith host path overrides = .ok r) :
    ReadOff path r ∧ ∀ host' overrides' r', compileWith host' path overrides' = .ok r' →
      r'.optionalVariables = r.optionalVariables := by
  have hread {host : String} {overrides : Lookup} {r : Route}
      (h : compileWith host path overrides = .ok r) : ReadOff path r := by
    obtain ⟨p, p', -, hpath, rfl⟩ := compileWith_eq_ok h
    exact readOff_of_compilePath hpath p
  refine ⟨hread h, fun host' overrides' r' h' => ?_⟩
  apply eq_of_forall_suffix_iff
  intro name names
  rw [(hread h').suffix_iff, (hread h).suffix_iff]

theorem optionalVariables_of_compile_wiki :
    (∃ before run names, wikiPattern.path.toList = before ++ run ∧ MarkedRun "format" names run) ∧
      ¬ ∃ before run names, wikiPattern.path.toList = before ++ run ∧ MarkedRun "rev" names run := by
  obtain ⟨hread, -⟩ := optionalVariables_of_compile compile_wikiPattern
  rw [← hread.mem_iff, ← hread.mem_iff]
  decide

end RoutePatterns
