import RoutePatterns.Proofs.Pattern.Occurrence

/-!
# Leaving out the marks of a path

A path is compiled without the marks of its optional placeholders (`withoutMarks`). What this does to the path is
said with its raw pieces (`RawPiece`), which keep the ending with which a placeholder is written. They make the path
up, and they show every placeholder that stands in it, wherever one looks for it (`ConsistsOf`).

The raw pieces are found by cutting the path from the left (`Cut`). Nothing is overlooked in this way, since no two
placeholders overlap: each is over before the next brace (`Cut.standsAt_iff`). Without its marks, a path is cut into
the same pieces without their marks (`Cut.unmarked`), so what is known of a path is known of the path without its
marks too. No marked placeholder is left and none comes about, no placeholder is lost, and the characters outside of
them stay (`withoutMarks_clean`).
-/

namespace RoutePatterns

/-- A placeholder stands in a text between the characters `before` and `after`. -/
def StandsAt (cs before : List Char) (name : String) (ending : SlotEnd) (after : List Char) : Prop :=
  IsSlotName name ∧ cs = before ++ '\x7b' :: (name.toList ++ (ending.chars ++ after))

/-- A piece of a path as it is written: a character, or a placeholder with its ending. -/
inductive RawPiece where
  /-- A character outside the placeholders. -/
  | char (c : Char)
  /-- A placeholder. -/
  | slot (name : String) (ending : SlotEnd)

namespace RawPiece

/-- The characters of a piece. -/
def chars : RawPiece → List Char
  | char c => [c]
  | slot name ending => '\x7b' :: (name.toList ++ ending.chars)

/-- The piece without its mark. -/
def unmark : RawPiece → RawPiece
  | char c => char c
  | slot name _ => slot name .plain

/-- The piece as which a scan of the path without marks sees it. -/
def piece : RawPiece → Piece
  | char c => .char c
  | slot name _ => .slot name

/-- The name of a placeholder. -/
def name? (raw : RawPiece) : Option String := raw.piece.name?

end RawPiece

/-- The pieces that a text consists of: they make it up, and the placeholders among them are all that stand in
it. -/
structure ConsistsOf (cs : List Char) (raw : List RawPiece) : Prop where
  eq_flatMap : cs = raw.flatMap RawPiece.chars
  standsAt_iff : ∀ before name ending after, StandsAt cs before name ending after ↔
    ∃ earlier later, raw = earlier ++ .slot name ending :: later ∧
      earlier.flatMap RawPiece.chars = before ∧ later.flatMap RawPiece.chars = after

/-- A text is a path without its marks: it consists of the pieces that the path consists of, and each placeholder is
written without its mark. -/
def IsUnmarked (path text : String) : Prop :=
  ∃ raw, ConsistsOf path.toList raw ∧ ConsistsOf text.toList (raw.map RawPiece.unmark)

/-- A path is cut into raw pieces. No placeholder begins at a character that is a piece of its own. -/
inductive Cut : List Char → List RawPiece → Prop
  | nil : Cut [] []
  | char {c : Char} {cs : List Char} {raw : List RawPiece}
      (hnone : ∀ ending, slotName? ending (c :: cs) = none) (h : Cut cs raw) : Cut (c :: cs) (.char c :: raw)
  | slot {name : String} {cs : List Char} {raw : List RawPiece} (hname : IsSlotName name) (ending : SlotEnd)
      (h : Cut cs raw) : Cut ('\x7b' :: (name.toList ++ (ending.chars ++ cs))) (.slot name ending :: raw)

variable {cs before after : List Char} {raw : List RawPiece} {name : String} {ending : SlotEnd}

namespace SlotEnd

theorem mem_endings_path (ending : SlotEnd) : ending ∈ Part.path.endings := by
  cases ending <;> decide

end SlotEnd

/-! ### The raw pieces of a path -/

theorem exists_cut (cs : List Char) : ∃ raw, Cut cs raw := by
  induction cs using slot_induction Part.path.endings with
  | nil => exact ⟨[], .nil⟩
  | char c cs hnone ih =>
    obtain ⟨raw, h⟩ := ih
    exact ⟨.char c :: raw, .char (fun ending => hnone ending ending.mem_endings_path) h⟩
  | slot ending hending name cs hname ih =>
    obtain ⟨raw, h⟩ := ih
    exact ⟨.slot name ending :: raw, .slot hname ending h⟩

namespace Cut

/-- The pieces of a path make it up. -/
theorem flatMap_chars (h : Cut cs raw) : raw.flatMap RawPiece.chars = cs := by
  induction h with
  | nil => rfl
  | char _ _ ih => rw [List.flatMap_cons, ih, RawPiece.chars, List.singleton_append]
  | slot _ ending _ ih => rw [List.flatMap_cons, ih, RawPiece.chars, List.cons_append, List.append_assoc]

theorem isSlotName_of_mem (h : Cut cs raw) (hmem : .slot name ending ∈ raw) : IsSlotName name := by
  induction h with
  | nil => cases hmem
  | char _ _ ih =>
    obtain hmem | hmem := List.mem_cons.1 hmem
    · cases hmem
    · exact ih hmem
  | slot hname _ _ ih =>
    obtain hmem | hmem := List.mem_cons.1 hmem
    · obtain ⟨rfl, -⟩ := RawPiece.slot.inj hmem
      exact hname
    · exact ih hmem

theorem exists_eq_append_of_standsAt (h : Cut cs raw) (hstands : StandsAt cs before name ending after) :
    ∃ earlier later, raw = earlier ++ .slot name ending :: later ∧
      earlier.flatMap RawPiece.chars = before ∧ later.flatMap RawPiece.chars = after := by
  obtain ⟨hname, heq⟩ := hstands
  induction h generalizing before with
  | nil => simp at heq
  | char hnone _ ih =>
    cases before with
    | nil =>
      -- No placeholder begins at this character.
      have hsome := slotName?_slot hname ending after
      rw [List.nil_append] at heq
      rw [← heq, hnone ending] at hsome
      cases hsome
    | cons c before =>
      obtain ⟨rfl, hcs⟩ := List.cons.inj heq
      obtain ⟨earlier, later, rfl, rfl, rfl⟩ := ih hcs
      exact ⟨.char _ :: earlier, later, rfl, rfl, rfl⟩
  | @slot other cs raw hother ending' hraw ih =>
    cases before with
    | nil =>
      obtain ⟨hnames, rfl, rfl⟩ := slot_inj hother.2 hname.2 (List.cons.inj heq).2
      obtain rfl := String.toList_injective hnames
      exact ⟨[], raw, rfl, rfl, hraw.flatMap_chars⟩
    | cons c before =>
      obtain ⟨rfl, hrest⟩ := List.cons.inj heq
      obtain ⟨between, rfl, hcs⟩ := exists_eq_append_of_brace hother hrest
      obtain ⟨earlier, later, rfl, rfl, rfl⟩ := ih hcs
      refine ⟨.slot other ending' :: earlier, later, rfl, ?_, rfl⟩
      rw [List.flatMap_cons, RawPiece.chars, List.cons_append, List.append_assoc]

/-- **Where a placeholder stands, it is a piece**, and every piece that is a placeholder stands there. -/
theorem standsAt_iff (h : Cut cs raw) : StandsAt cs before name ending after ↔
    ∃ earlier later, raw = earlier ++ .slot name ending :: later ∧
      earlier.flatMap RawPiece.chars = before ∧ later.flatMap RawPiece.chars = after := by
  refine ⟨h.exists_eq_append_of_standsAt, ?_⟩
  rintro ⟨earlier, later, rfl, rfl, rfl⟩
  refine ⟨h.isSlotName_of_mem (List.mem_append_right _ List.mem_cons_self), ?_⟩
  rw [← h.flatMap_chars, List.flatMap_append, List.flatMap_cons, RawPiece.chars, List.cons_append,
    List.append_assoc]

/-! ### Without the marks -/

/-- **A path without its marks is cut into the same pieces without their marks.** -/
theorem unmarked (h : Cut cs raw) : Cut (Part.path.unmarkedChars cs) (raw.map RawPiece.unmark) := by
  induction h with
  | nil => exact .nil
  | @char c cs raw hnone _ ih =>
    rw [Part.unmarkedChars_char fun ending _ => hnone ending]
    refine .char (fun ending => ?_) ih
    -- A mark that is left out stands after a brace, where it makes no difference for this character.
    rw [slotName?_congr (Part.path.takeWhile_unmarkedChars cs)]
    exact hnone ending
  | slot hname ending _ ih =>
    rw [Part.unmarkedChars_slot ending.mem_endings_path hname]
    exact .slot hname .plain ih

/-- A scan of the path without its marks sees the pieces of the path. -/
theorem pieces_eq (h : Cut cs raw) : Part.path.pieces cs = raw.map RawPiece.piece := by
  induction h with
  | nil => exact Part.path.pieces_nil
  | char hnone _ ih => rw [Part.pieces_char fun ending _ => hnone ending, ih, List.map_cons, RawPiece.piece]
  | slot hname ending _ ih =>
    rw [Part.pieces_slot ending.mem_endings_path hname, ih, List.map_cons, RawPiece.piece]

end Cut

theorem withoutMarks_withoutMarks (path : String) : withoutMarks (withoutMarks path) = withoutMarks path := by
  have h := withoutMarks_written (proper_scan .optional path) fun _ => .plain
  rw [Piece.flatMap_written_plain] at h
  exact h

theorem optionalNames_withoutMarks (path : String) : optionalNames (withoutMarks path) = [] := by
  have h := optionalNames_written (proper_scan .optional path) fun _ => .plain
  rw [Piece.flatMap_written_plain] at h
  exact h.trans (by simp)

/-! ### What a path consists of -/

/-- No marked placeholder is among pieces without their marks. -/
theorem ConsistsOf.not_standsAt_optional (h : ConsistsOf cs (raw.map RawPiece.unmark)) :
    ¬ StandsAt cs before name .optional after := by
  intro hstands
  obtain ⟨earlier, later, heq, -⟩ := (h.standsAt_iff _ _ _ _).1 hstands
  have hmem : .slot name .optional ∈ raw.map RawPiece.unmark := by
    rw [heq]
    exact List.mem_append_right _ List.mem_cons_self
  obtain ⟨piece, -, hpiece⟩ := List.mem_map.1 hmem
  cases piece with
  | char c => cases hpiece
  | slot other ending => cases hpiece

theorem Cut.consistsOf (h : Cut cs raw) : ConsistsOf cs raw :=
  ⟨h.flatMap_chars.symm, fun _ _ _ _ => h.standsAt_iff⟩

theorem exists_cut_withoutMarks (path : String) :
    ∃ raw, Cut path.toList raw ∧ Cut (withoutMarks path).toList (raw.map RawPiece.unmark) := by
  obtain ⟨raw, hcut⟩ := exists_cut path.toList
  have htext : (withoutMarks path).toList = Part.path.unmarkedChars path.toList := Part.path.toList_unmarked path
  exact ⟨raw, hcut, htext ▸ hcut.unmarked⟩

/-- The text that a path is compiled as is the path without its marks. -/
theorem isUnmarked_withoutMarks (path : String) : IsUnmarked path (withoutMarks path) := by
  obtain ⟨raw, hcut, hunmarked⟩ := exists_cut_withoutMarks path
  exact ⟨raw, hcut.consistsOf, hunmarked.consistsOf⟩

/-- **Leaving out the marks of a path changes nothing else.** The path without marks holds no marked placeholder,
so leaving them out again makes no difference. It consists of the pieces of the path without their marks: the
placeholders that are found in it are those that stand in the path, marked or not, in the same order, and the
characters outside of them are the same. -/
theorem withoutMarks_clean (path : String) :
    (∀ before name after, ¬ StandsAt (withoutMarks path).toList before name .optional after) ∧
      withoutMarks (withoutMarks path) = withoutMarks path ∧
      optionalNames (withoutMarks path) = [] ∧
      ∃ raw, ConsistsOf path.toList raw ∧
        ConsistsOf (withoutMarks path).toList (raw.map RawPiece.unmark) ∧
        scan .plain (withoutMarks path) = raw.map RawPiece.piece ∧
        slotNames .plain (withoutMarks path) = raw.filterMap RawPiece.name? := by
  obtain ⟨raw, hcut, hunmarked⟩ := exists_cut_withoutMarks path
  have hscan : scan .plain (withoutMarks path) = raw.map RawPiece.piece := by
    rw [← hcut.pieces_eq]
    exact Part.path.scan_unmarked path
  have hnames : slotNames .plain (withoutMarks path) = raw.filterMap RawPiece.name? := by
    rw [slotNames, hscan, List.filterMap_map]
    rfl
  exact ⟨fun _ _ _ => hunmarked.consistsOf.not_standsAt_optional, withoutMarks_withoutMarks path,
    optionalNames_withoutMarks path, raw, hcut.consistsOf, hunmarked.consistsOf, hscan, hnames⟩

/-- A brace that opens no placeholder stays, and so does a question mark outside of one. -/
example : withoutMarks "/{a{b?}?}/{c?}{d}?" = "/{a{b}?}/{c}{d}?" := by decide

end RoutePatterns
