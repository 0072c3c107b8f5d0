import RoutePatterns.Proofs.Regex.Step
import RoutePatterns.Regex.Resolve
import RoutePatterns.Regex.Runs

/-!
# Reading an expression inside of a group

An expression that can be read alone, and can be read between `(?:` and `)`, can be read in every
group whose surroundings are not verbose and have no group name in common with it
(`Reader.leads_group`): the group then holds the same expression.

`Reader.Steps` counts the lexemes that lead from one state of the reader to another. What stands around
a group (`Reader.under`) does not change the steps inside of it, and the names that the reader has seen
are the names of groups in what it has read (`Reader.Named`).
-/

namespace RoutePatterns

namespace Regex

namespace GroupKind

/-- The name of a capture. -/
def name? : GroupKind → Option String
  | capture name => name
  | plain _ => none

/-- Whether the text of a group is verbose. -/
def isVerbose (before : Bool) : GroupKind → Bool
  | capture _ => before
  | plain changes => changes.setting .verbose before

end GroupKind

namespace Reader

/-! ### Steps -/

/-- So many lexemes lead from one state, with a text to read, to another one. -/
inductive Steps : Nat → Reader → List Char → Reader → List Char → Prop
  | refl (r : Reader) (cs : List Char) : Steps 0 r cs r cs
  | step {n : Nat} {r r' r'' : Reader} {cs cs' cs'' rest : List Char} {c : Char}
      (hskip : skip r.verbose cs = c :: rest)
      (hstep : r.step (c :: rest) = some (r', cs')) (h : Steps n r' cs' r'' cs'') :
      Steps (n + 1) r cs r'' cs''

variable {n m : Nat} {r r' r'' : Reader} {cs cs' cs'' : List Char} {e : Syntax}

theorem Steps.trans (h : Steps n r cs r' cs') (h' : Steps m r' cs' r'' cs'') :
    Steps (n + m) r cs r'' cs'' := by
  induction h with
  | refl => rwa [Nat.zero_add]
  | step hskip hstep _ ih =>
    rw [Nat.succ_add]
    exact .step hskip hstep (ih h')

theorem runFor_eq_some_iff :
    r.runFor n cs = some e ↔
      ∃ m ≤ n, ∃ r' cs', Steps m r cs r' cs' ∧ skip r'.verbose cs' = [] ∧ r'.finish = some e := by
  constructor
  · intro h
    induction n generalizing r cs with
    | zero =>
      rw [runFor] at h
      cases hskip : skip r.verbose cs with
      | nil => exact ⟨0, Nat.le_refl 0, r, cs, .refl r cs, hskip, by simpa only [hskip] using h⟩
      | cons c rest => simp only [hskip, reduceCtorEq] at h
    | succ n ih =>
      rw [runFor] at h
      cases hskip : skip r.verbose cs with
      | nil => exact ⟨0, by omega, r, cs, .refl r cs, hskip, by simpa only [hskip] using h⟩
      | cons c rest =>
        simp only [hskip] at h
        split at h
        · next r' cs' hstep =>
          obtain ⟨m, hm, r'', cs'', hsteps, hend⟩ := ih h
          exact ⟨m + 1, by omega, r'', cs'', .step hskip hstep hsteps, hend⟩
        · cases h
  · rintro ⟨m, hm, r', cs', hsteps, hend, hfinish⟩
    -- Fuel beyond the number of steps is not used.
    refine runFor_eq_some_of_le hm ?_
    clear hm
    induction hsteps with
    | refl r cs =>
      rw [runFor]
      simp only [hend, hfinish]
    | step hskip hstep _ ih =>
      rw [runFor]
      simp only [hskip, hstep]
      exact ih hend hfinish

/-- The end of a text is reached in one way only. -/
theorem Steps.unique {cs₁ cs₂ : List Char} {r₁ r₂ : Reader} (h₁ : Steps n r cs r₁ cs₁)
    (hend₁ : skip r₁.verbose cs₁ = []) (h₂ : Steps m r cs r₂ cs₂)
    (hend₂ : skip r₂.verbose cs₂ = []) : r₁ = r₂ := by
  induction h₁ generalizing m with
  | refl r cs =>
    cases h₂ with
    | refl => rfl
    | step hskip _ _ => exact absurd (hend₁.symm.trans hskip) (List.cons_ne_nil _ _).symm
  | step hskip hstep _ ih =>
    cases h₂ with
    | refl => exact absurd (hend₂.symm.trans hskip) (List.cons_ne_nil _ _).symm
    | step hskip' hstep' h₂ =>
      obtain ⟨rfl, rfl⟩ := List.cons.inj (hskip.symm.trans hskip')
      obtain ⟨rfl, rfl⟩ := Prod.mk.inj (Option.some.inj (hstep.symm.trans hstep'))
      exact ih hend₁ h₂

/-- Lexemes lead from one state to another, no more of them than characters are read. -/
def Leads (r : Reader) (cs : List Char) (r' : Reader) (cs' : List Char) : Prop :=
  ∃ n, n + cs'.length ≤ cs.length ∧ Steps n r cs r' cs'

theorem Leads.refl (r : Reader) (cs : List Char) : Leads r cs r cs :=
  ⟨0, by omega, .refl r cs⟩

theorem Leads.trans (h : Leads r cs r' cs') (h' : Leads r' cs' r'' cs'') : Leads r cs r'' cs'' := by
  obtain ⟨n, hn, h⟩ := h
  obtain ⟨m, hm, h'⟩ := h'
  exact ⟨n + m, by omega, h.trans h'⟩

/-- One lexeme of a text that is not verbose. -/
theorem Leads.step {c : Char} (hv : r.verbose = false)
    (hstep : r.step (c :: cs) = some (r', cs')) (hlen : cs'.length ≤ cs.length) :
    Leads r (c :: cs) r' cs' := by
  refine ⟨1, by simpa [Nat.add_comm] using hlen, .step ?_ hstep (.refl r' cs')⟩
  rw [hv]
  rfl

theorem Leads.run (h : Leads r cs r' []) (hfinish : r'.finish = some e) : r.run cs = some e := by
  obtain ⟨n, hn, h⟩ := h
  exact runFor_eq_some_iff.2 ⟨n, by simpa using hn, r', [], h, rfl, hfinish⟩

/-- The lexemes of a text are read in the same way before a closing parenthesis, which is then the next
lexeme, unless a comment is open. -/
theorem Steps.paren (h : Steps n r cs r' cs') (hend : skip r'.verbose cs' = [])
    (hclass : r'.inClass = none) :
    (∀ t, ∃ rest, Steps n r (cs ++ ')' :: t) r' rest ∧ skip r'.verbose rest = ')' :: t) ∨
      ∀ t, '\n' ∉ t → ∃ rest, Steps n r (cs ++ ')' :: t) r' rest ∧ skip r'.verbose rest = [] := by
  induction h with
  | refl r cs =>
    exact (skipFrom_append_paren hend).imp (fun hparen t => ⟨_, .refl r _, hparen t⟩)
      fun hopen t ht => ⟨_, .refl r _, hopen t ht⟩
  | @step n r r' r'' cs cs' cs'' rest c hskip hstep h ih =>
    have hskip' (t : List Char) : skip r.verbose (cs ++ t) = c :: (rest ++ t) :=
      skipFrom_append hskip t
    -- If nothing is left after the lexeme, it is the last one, and no class is open.
    have hlast : cs' = [] → r' = r'' := by
      rintro rfl
      cases h with
      | refl => rfl
      | step hskip _ _ => cases hskip
    rcases step_paren hstep fun hnil => hlast hnil ▸ hclass with hparen | ⟨rfl, hopen⟩
    · exact (ih hend hclass).imp
        (fun h t => let ⟨rest, h, hrest⟩ := h t; ⟨rest, .step (hskip' _) (hparen t) h, hrest⟩)
        fun h t ht => let ⟨rest, h, hrest⟩ := h t ht; ⟨rest, .step (hskip' _) (hparen t) h, hrest⟩
    · cases h with
      | refl => exact .inr fun t ht => ⟨[], .step (hskip' _) (hopen t ht) (.refl _ _), rfl⟩
      | step hskip _ _ => cases hskip

/-! ### What stands around a group -/

/-- The same reader inside of open groups, after groups with certain names. -/
def under (frames : List Frame) (names : List String) (r : Reader) : Reader :=
  { r with frames := r.frames ++ frames, names := r.names ++ names }

theorem openGroup_eq_some_iff {kind : GroupKind} :
    r.openGroup kind = some r' ↔
      (∀ name ∈ kind.name?, name ∉ r.names) ∧
        r' = { r with
          frames := ⟨kind, r.branches, r.items, r.verbose⟩ :: r.frames, branches := [], items := []
          verbose := kind.isVerbose r.verbose, names := kind.name?.toList ++ r.names } := by
  rcases kind with (_ | name) | changes
  · simp [openGroup, GroupKind.name?, GroupKind.isVerbose, eq_comm]
  · by_cases hname : name ∈ r.names <;>
      simp [openGroup, GroupKind.name?, GroupKind.isVerbose, hname, eq_comm]
  · simp [openGroup, GroupKind.name?, GroupKind.isVerbose, eq_comm]

theorem closeGroup_eq_some_iff :
    r.closeGroup = some r' ↔ ∃ f frames, r.frames = f :: frames ∧
      r' = { r with
        frames := frames, branches := f.branches, verbose := f.verbose
        items := .group f.kind r.body :: f.items } := by
  rw [closeGroup]
  cases hframes : r.frames with
  | nil => exact ⟨nofun, nofun⟩
  | cons f frames =>
    constructor
    · exact fun h => ⟨f, frames, rfl, (Option.some.inj h).symm⟩
    · rintro ⟨f', frames', heq, rfl⟩
      obtain ⟨rfl, rfl⟩ := List.cons.inj heq
      rfl

theorem repeatLast_eq_some_iff {count : Count} {lazy : Bool} :
    r.repeatLast count lazy = some r' ↔ ∃ e items, r.items = e :: items ∧ e.isRepeatable = true ∧
      r' = { r with items := .repetition count.min count.max lazy e :: items } := by
  rw [repeatLast]
  cases hitems : r.items with
  | nil => exact ⟨nofun, nofun⟩
  | cons e items =>
    constructor
    · intro h
      by_cases he : e.isRepeatable = true
      · exact ⟨e, items, rfl, he, (Option.some.inj ((if_pos he).symm.trans h)).symm⟩
      · cases (if_neg he).symm.trans h
    · rintro ⟨e', items', heq, he, rfl⟩
      obtain ⟨rfl, rfl⟩ := List.cons.inj heq
      exact if_pos he

/-- A lexeme inside of a class goes on with a class, or ends it. -/
theorem of_inside {c : ClassReading} (h : r.inside c cs = some (r', cs')) :
    (∃ c', r' = r.continueClass c') ∨ ∃ e, r' = { r.push e with inClass := none } := by
  rw [inside.eq_def] at h
  split at h
  case h_1 => cases h
  case h_2 =>
    split at h
    all_goals
      obtain ⟨rfl, -⟩ := Prod.mk.inj (Option.some.inj h)
      exact .inl ⟨_, rfl⟩
  case h_3 =>
    obtain ⟨r'', hclose, heq⟩ := Option.map_eq_some_iff.1 h
    obtain ⟨rfl, -⟩ := Prod.mk.inj heq
    simp only [closeBracket] at hclose
    split at hclose
    · exact .inr ⟨_, (Option.some.inj hclose).symm⟩
    · exact .inl ⟨_, (Option.some.inj hclose).symm⟩
    · cases hclose
  case h_7 =>
    obtain ⟨i, -, heq⟩ := Option.map_eq_some_iff.1 h
    exact .inl ⟨_, (Prod.mk.inj heq).1.symm⟩
  all_goals exact .inl ⟨_, (Prod.mk.inj (Option.some.inj h)).1.symm⟩

/-- A step takes a lexeme outside of classes, or one inside of a class. -/
theorem step_eq_some_iff :
    r.step cs = some (r', cs') ↔
      r.inClass = none ∧ (∃ l, lexeme? r.verbose cs = some (l, cs') ∧ r.take l = some r') ∨
        ∃ c, r.inClass = some c ∧ r.inside c cs = some (r', cs') := by
  rw [step]
  cases r.inClass with
  | some c => simp
  | none => simp [outside_eq, Option.bind_eq_some_iff]

theorem take_names {l : Lexeme} (h : r.take l = some r') : r.names ⊆ r'.names := by
  cases l with
  | enter o =>
    cases o with
    | group kind =>
      obtain ⟨-, rfl⟩ := openGroup_eq_some_iff.1 h
      exact List.subset_append_right _ _
    | flags changes =>
      obtain rfl := Option.some.inj h
      exact List.Subset.refl _
  | close =>
    obtain ⟨f, frames, -, rfl⟩ := closeGroup_eq_some_iff.1 h
    exact List.Subset.refl _
  | repeated count lazy =>
    obtain ⟨e, items, -, -, rfl⟩ := repeatLast_eq_some_iff.1 h
    exact List.Subset.refl _
  | _ =>
    obtain rfl := Option.some.inj h
    exact List.Subset.refl _

theorem step_names (h : r.step cs = some (r', cs')) : r.names ⊆ r'.names := by
  rcases step_eq_some_iff.1 h with ⟨-, l, -, htake⟩ | ⟨c, -, hinside⟩
  · exact take_names htake
  · rcases of_inside hinside with ⟨c', rfl⟩ | ⟨e, rfl⟩
    · exact List.Subset.refl _
    · exact List.Subset.refl _

theorem Steps.names (h : Steps n r cs r' cs') : r.names ⊆ r'.names := by
  induction h with
  | refl => exact List.Subset.refl _
  | step _ hstep _ ih => exact List.Subset.trans (step_names hstep) ih

theorem openGroup_under {kind : GroupKind} {frames : List Frame} {names : List String}
    (h : r.openGroup kind = some r') (hnames : ∀ name ∈ r'.names, name ∉ names) :
    (r.under frames names).openGroup kind = some (r'.under frames names) := by
  obtain ⟨hfresh, rfl⟩ := openGroup_eq_some_iff.1 h
  refine openGroup_eq_some_iff.2 ⟨fun name hname hmem => ?_, ?_⟩
  · rcases List.mem_append.1 hmem with hmem | hmem
    · exact hfresh name hname hmem
    · exact hnames name (List.mem_append_left _ (Option.mem_toList.2 hname)) hmem
  · simp only [under, List.cons_append, List.append_assoc]

theorem take_under {l : Lexeme} {frames : List Frame} {names : List String} (h : r.take l = some r')
    (hnames : ∀ name ∈ r'.names, name ∉ names) :
    (r.under frames names).take l = some (r'.under frames names) := by
  cases l with
  | enter o =>
    cases o with
    | group kind => exact openGroup_under h hnames
    | flags changes =>
      obtain rfl := Option.some.inj h
      rfl
  | close =>
    obtain ⟨f, fs, hframes, rfl⟩ := closeGroup_eq_some_iff.1 h
    refine closeGroup_eq_some_iff.2 ⟨f, fs ++ frames, ?_, rfl⟩
    rw [under, hframes, List.cons_append]
  | repeated count lazy =>
    obtain ⟨e, items, hitems, he, rfl⟩ := repeatLast_eq_some_iff.1 h
    exact repeatLast_eq_some_iff.2 ⟨e, items, hitems, he, rfl⟩
  | _ =>
    obtain rfl := Option.some.inj h
    rfl

theorem closeBracket_under (r : Reader) (c : ClassReading) (frames : List Frame)
    (names : List String) :
    (r.under frames names).closeBracket c = (r.closeBracket c).map (under frames names) := by
  simp only [closeBracket]
  split <;> rfl

/-- A lexeme inside of a class has nothing to do with groups. -/
theorem inside_under (r : Reader) (c : ClassReading) (cs : List Char) (frames : List Frame)
    (names : List String) :
    (r.under frames names).inside c cs =
      (r.inside c cs).map fun o => (o.1.under frames names, o.2) := by
  rw [inside.eq_def, inside.eq_def]
  split
  case h_2 => split <;> rfl
  case h_3 =>
    rw [closeBracket_under]
    cases r.closeBracket c <;> rfl
  case h_7 =>
    rw [Option.map_map]
    rfl
  all_goals rfl

theorem step_under {frames : List Frame} {names : List String} (h : r.step cs = some (r', cs'))
    (hnames : ∀ name ∈ r'.names, name ∉ names) :
    (r.under frames names).step cs = some (r'.under frames names, cs') := by
  rcases step_eq_some_iff.1 h with ⟨hclass, l, hl, htake⟩ | ⟨c, hclass, hinside⟩
  · exact step_eq_some_iff.2 (.inl ⟨hclass, l, hl, take_under htake hnames⟩)
  · refine step_eq_some_iff.2 (.inr ⟨c, hclass, ?_⟩)
    rw [inside_under, hinside, Option.map_some]

theorem Steps.under {names : List String} (h : Steps n r cs r' cs') (frames : List Frame)
    (hnames : ∀ name ∈ r'.names, name ∉ names) :
    Steps n (r.under frames names) cs (r'.under frames names) cs' := by
  induction h with
  | refl => exact .refl _ _
  | step hskip hstep h ih =>
    exact .step hskip (step_under hstep fun name hname => hnames name (h.names hname)) (ih hnames)

end Reader

/-! ### The names of groups -/

/-- The names of the groups, from left to right. -/
def Syntax.groupNames : Syntax → List String
  | group kind e => kind.name?.toList ++ e.groupNames
  | repetition _ _ _ e => e.groupNames
  | cat a b | alt a b => a.groupNames ++ b.groupNames
  | empty | flags _ | char _ | dot | assertion _ | set _ => []

theorem Syntax.groupNames_ofItems (es : List Syntax) :
    (ofItems es).groupNames = es.flatMap groupNames := by
  induction es with
  | nil => rfl
  | cons e es ih =>
    cases es with
    | nil => simp [ofItems]
    | cons e' es =>
      rw [ofItems, groupNames, ih, List.flatMap_cons, List.flatMap_cons, List.flatMap_cons]
      exact List.cons_ne_nil e' es

theorem Syntax.mem_groupNames_ofBranches {name : String} {branches : List Syntax} {last : Syntax} :
    name ∈ (ofBranches branches last).groupNames ↔
      name ∈ last.groupNames ∨ name ∈ branches.flatMap groupNames := by
  rw [ofBranches]
  induction branches generalizing last with
  | nil => simp
  | cons e branches ih =>
    rw [List.foldl_cons, ih, groupNames, List.flatMap_cons]
    simp only [List.mem_append]
    tauto

/-- The expression that is meant has the groups of the expression as it is written. -/
theorem Syntax.groupNames_of_resolveWith? {f f' : Flags} {e : Syntax} {e' : Expr}
    (h : e.resolveWith? f = some (e', f')) : e'.groupNames = e.groupNames := by
  induction e generalizing f f' e' with
  | group kind e ih =>
    cases kind with
    | capture name =>
      obtain ⟨⟨a, g⟩, ha, heq⟩ := Option.map_eq_some_iff.1 h
      obtain ⟨rfl, -⟩ := Prod.mk.inj heq
      rw [Expr.groupNames, ih ha]
      rfl
    | plain changes =>
      obtain ⟨⟨a, g⟩, ha, heq⟩ := Option.map_eq_some_iff.1 h
      obtain ⟨rfl, -⟩ := Prod.mk.inj heq
      exact ih ha
  | repetition min max lazy e ih =>
    obtain ⟨⟨a, g⟩, ha, heq⟩ := Option.map_eq_some_iff.1 h
    obtain ⟨rfl, -⟩ := Prod.mk.inj heq
    rw [Expr.groupNames, ih ha]
    rfl
  | cat a b iha ihb | alt a b iha ihb =>
    obtain ⟨⟨a', g⟩, ha, h⟩ := Option.bind_eq_some_iff.1 h
    obtain ⟨⟨b', g'⟩, hb, heq⟩ := Option.bind_eq_some_iff.1 h
    obtain ⟨rfl, -⟩ := Prod.mk.inj (Option.some.inj heq)
    rw [Expr.groupNames, iha ha, ihb hb]
    rfl
  | char l =>
    obtain ⟨c, -, heq⟩ := Option.map_eq_some_iff.1 h
    obtain ⟨rfl, -⟩ := Prod.mk.inj heq
    rfl
  | set c =>
    obtain ⟨s, -, heq⟩ := Option.map_eq_some_iff.1 h
    obtain ⟨rfl, -⟩ := Prod.mk.inj heq
    rfl
  | dot =>
    simp only [resolveWith?] at h
    split at h
    · obtain ⟨rfl, -⟩ := Prod.mk.inj (Option.some.inj h)
      rfl
    · cases h
  | empty | flags changes | assertion a =>
    obtain ⟨rfl, -⟩ := Prod.mk.inj (Option.some.inj h)
    rfl

/-- The names of an open group and of the groups before it. -/
def Frame.groupNames (f : Frame) : List String :=
  f.kind.name?.toList ++ f.branches.flatMap Syntax.groupNames ++ f.items.flatMap Syntax.groupNames

namespace Reader

/-- The names of all groups that have been read, open or not. -/
def groupNames (r : Reader) : List String :=
  r.frames.flatMap Frame.groupNames ++ r.branches.flatMap Syntax.groupNames ++
    r.items.flatMap Syntax.groupNames

/-- Every name that the reader knows is the name of a group that it has read. -/
def Named (r : Reader) : Prop := ∀ name ∈ r.names, name ∈ r.groupNames

variable {r r' : Reader} {cs cs' : List Char}

theorem mem_groupNames {name : String} :
    name ∈ r.groupNames ↔ name ∈ r.frames.flatMap Frame.groupNames ∨
      name ∈ r.branches.flatMap Syntax.groupNames ∨ name ∈ r.items.flatMap Syntax.groupNames := by
  simp only [groupNames, List.mem_append, or_assoc]

theorem mem_groupNames_body {name : String} :
    name ∈ r.body.groupNames ↔
      name ∈ r.branches.flatMap Syntax.groupNames ∨ name ∈ r.items.flatMap Syntax.groupNames := by
  rw [body, Syntax.mem_groupNames_ofBranches, Syntax.groupNames_ofItems, or_comm]
  simp only [List.mem_flatMap, List.mem_reverse]

theorem push_named (hr : r.Named) (e : Syntax) : (r.push e).Named := by
  intro name hname
  have hmem := mem_groupNames.1 (hr name hname)
  rw [mem_groupNames]
  simp only [push, List.flatMap_cons, List.mem_append]
  tauto

/-- Every lexeme outside of classes keeps the names of groups. -/
theorem take_named {l : Lexeme} (h : r.take l = some r') (hr : r.Named) : r'.Named := by
  cases l with
  | enter o =>
    cases o with
    | group kind =>
      obtain ⟨-, rfl⟩ := openGroup_eq_some_iff.1 h
      intro name hname
      rw [mem_groupNames]
      simp only [List.flatMap_cons, Frame.groupNames, List.mem_append, List.flatMap_nil,
        List.not_mem_nil, or_false] at hname ⊢
      rcases hname with hname | hname
      · exact .inl (.inl (.inl hname))
      · have hmem := mem_groupNames.1 (hr name hname)
        tauto
    | flags changes =>
      obtain rfl := Option.some.inj h
      exact push_named hr (.flags changes)
  | close =>
    obtain ⟨f, frames, hframes, rfl⟩ := closeGroup_eq_some_iff.1 h
    intro name hname
    have hmem := mem_groupNames.1 (hr name hname)
    rw [mem_groupNames]
    simp only [hframes, List.flatMap_cons, Frame.groupNames, List.mem_append, Syntax.groupNames,
      mem_groupNames_body] at hmem ⊢
    tauto
  | bar =>
    obtain rfl := Option.some.inj h
    intro name hname
    have hmem := mem_groupNames.1 (hr name hname)
    have hreverse : name ∈ r.items.reverse.flatMap Syntax.groupNames ↔
        name ∈ r.items.flatMap Syntax.groupNames := by
      simp only [List.mem_flatMap, List.mem_reverse]
    rw [mem_groupNames]
    simp only [nextBranch, List.flatMap_cons, List.flatMap_nil, List.mem_append,
      Syntax.groupNames_ofItems, hreverse]
    tauto
  | repeated count lazy =>
    obtain ⟨e, items, hitems, -, rfl⟩ := repeatLast_eq_some_iff.1 h
    intro name hname
    have hmem := mem_groupNames.1 (hr name hname)
    rw [mem_groupNames]
    rwa [hitems] at hmem
  | bracket c =>
    obtain rfl := Option.some.inj h
    exact hr
  | part e =>
    obtain rfl := Option.some.inj h
    exact push_named hr e

theorem step_named (h : r.step cs = some (r', cs')) (hr : r.Named) : r'.Named := by
  rcases step_eq_some_iff.1 h with ⟨-, l, -, htake⟩ | ⟨c, -, hinside⟩
  · exact take_named htake hr
  · rcases of_inside hinside with ⟨c', rfl⟩ | ⟨e, rfl⟩
    · exact hr
    · exact push_named hr e

theorem Steps.named {n : Nat} (h : Steps n r cs r' cs') (hr : r.Named) : r'.Named := by
  induction h with
  | refl => exact hr
  | step _ hstep _ ih => exact ih (step_named hstep hr)

/-! ### Expressions in groups -/

theorem finish_eq_some_iff {e : Syntax} :
    r.finish = some e ↔ r.inClass = none ∧ r.frames = [] ∧ r.body = e := by
  rw [finish]
  cases r.inClass <;> cases r.frames <;> simp

/-- The text of an expression can be put between the parentheses of a group: no comment in it is still
open at its end. -/
def Groupable (cs : List Char) : Prop := (run {} (['(', '?', ':'] ++ cs ++ [')'])).isSome

theorem step_plainGroup (r : Reader) (hclass : r.inClass = none) (hv : r.verbose = false)
    (cs : List Char) :
    r.step (['(', '?', ':'] ++ cs) =
      some ({ r with
        frames := ⟨.plain [], r.branches, r.items, false⟩ :: r.frames, branches := []
        items := [] }, cs) := by
  obtain ⟨frames, branches, items, verbose, names, inClass⟩ := r
  obtain rfl : inClass = none := hclass
  obtain rfl : verbose = false := hv
  rfl

/-- **An expression is read in a group as it is read alone**, if the names of its groups are new. -/
theorem leads_group {e : Syntax} (hread : run {} cs = some e) (hgroup : Groupable cs)
    {names : List String} (hnames : ∀ name ∈ e.groupNames, name ∉ names) (f : Frame)
    (frames : List Frame) :
    ∃ names', (∀ name ∈ names', name ∈ e.groupNames) ∧ ∀ t,
      Leads ⟨f :: frames, [], [], false, names, none⟩ (cs ++ ')' :: t)
        ⟨frames, f.branches, .group f.kind e :: f.items, f.verbose, names' ++ names, none⟩ t := by
  obtain ⟨n, hn, r, cs', hsteps, hend, hfinish⟩ := runFor_eq_some_iff.1 hread
  obtain ⟨hclass, hframes, rfl⟩ := finish_eq_some_iff.1 hfinish
  -- What the reader knows at the end are names of groups in `e`, so none of them is in `names`.
  have hnamed : ∀ name ∈ r.names, name ∈ r.body.groupNames := by
    intro name hname
    have hmem := mem_groupNames.1 (hsteps.named (by simp [Named]) name hname)
    rw [mem_groupNames_body]
    simpa [hframes] using hmem
  rcases hsteps.paren hend hclass with hparen | hopen
  · refine ⟨r.names, hnamed, fun t => ?_⟩
    obtain ⟨rest, hparen, hrest⟩ := hparen t
    have hunder := hparen.under (f :: frames) fun name hname => hnames name (hnamed name hname)
    have hclose : (r.under (f :: frames) names).step (')' :: t) =
        some (⟨frames, f.branches, .group f.kind r.body :: f.items, f.verbose, r.names ++ names,
          none⟩, t) := by
      simp only [step, under, hclass, hframes]
      rfl
    refine ⟨n + 1, ?_, hunder.trans (.step hrest hclose (.refl _ _))⟩
    rw [List.length_append, List.length_cons]
    omega
  · -- With the comment open, the parenthesis is lost and the group around it is never closed.
    obtain ⟨e', he'⟩ := Option.isSome_iff_exists.1 hgroup
    obtain ⟨m, -, r', cs'', hsteps', hend', hfinish'⟩ := runFor_eq_some_iff.1 he'
    obtain ⟨rest, hopen, hrest⟩ := hopen [] List.not_mem_nil
    have hunder := hopen.under [⟨.plain [], [], [], false⟩] fun name _ => List.not_mem_nil
    have hwhole : Steps (n + 1) {} (['(', '?', ':'] ++ cs ++ [')'])
        (r.under [⟨.plain [], [], [], false⟩] []) rest :=
      .step rfl (step_plainGroup {} rfl rfl (cs ++ [')'])) hunder
    obtain rfl := hwhole.unique hrest hsteps' hend'
    obtain ⟨-, hframes', -⟩ := finish_eq_some_iff.1 hfinish'
    simp [under] at hframes'

end Reader

end Regex

end RoutePatterns
