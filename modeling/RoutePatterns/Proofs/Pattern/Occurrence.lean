import RoutePatterns.Pattern.Tokens
import RoutePatterns.Proofs.Pattern.Scan

/-!
# The placeholders of a raw text

Where a placeholder stands can be said of a host or path as it is written (`OccursAt`): a brace, a name,
and one of the endings that the part of the route knows. The names that are compiled are found in another
way: the marks of a path are left out first, and what is left is scanned (`Part.pieces`). Both find the
same placeholders in the same order: the names before an occurrence are the names of the text before it
(`OccursAt.names_eq`), and every name has an occurrence (`exists_occursAt_of_names_eq`).

The lemmas on `Part.pieces` follow the text from the left (`slot_induction`): a character of no
placeholder (`pieces_char`), or a placeholder with one of the endings (`pieces_slot`).
-/

namespace RoutePatterns

namespace Part

/-- The ways in which a placeholder may end. In a path it may be marked as optional. -/
def endings : Part → List SlotEnd
  | host => [.plain]
  | path => [.plain, .optional]

/-- The text that is cut into tokens: a host itself, and a path without the marks of its optional
placeholders. -/
def unmarked : Part → String → String
  | host, text => text
  | path, text => withoutMarks text

/-- The characters of a text without the marks of its optional placeholders. -/
def unmarkedChars : Part → List Char → List Char
  | host, cs => cs
  | path, cs => (scanAfter .optional 0 cs).flatMap Piece.text

/-- The pieces of a text, in which every placeholder is seen whatever its ending. -/
def pieces (part : Part) (cs : List Char) : List Piece := scanAfter .plain 0 (part.unmarkedChars cs)

/-- The names of the placeholders of a text, from left to right. -/
def names (part : Part) (cs : List Char) : List String := (part.pieces cs).filterMap Piece.name?

end Part

/-- A placeholder stands in a text right after the characters `before`. -/
def OccursAt (part : Part) (cs before : List Char) (name : String) : Prop :=
  IsSlotName name ∧ ∃ ending ∈ part.endings, ∃ after,
    cs = before ++ '\x7b' :: (name.toList ++ (ending.chars ++ after))

/-- A placeholder of the name stands in a text before the position after `before`. -/
def OccursBefore (part : Part) (cs before : List Char) (name : String) : Prop :=
  ∃ earlier, OccursAt part cs earlier name ∧ earlier.length < before.length

variable {part : Part} {ending : SlotEnd} {c : Char} {cs before rest : List Char} {name : String}

/-! ### The pieces of a text -/

namespace Part

theorem plain_mem_endings (part : Part) : SlotEnd.plain ∈ part.endings := by
  cases part <;> decide

theorem optional_mem_endings : SlotEnd.optional ∈ path.endings := by decide

theorem toList_unmarked (part : Part) (text : String) :
    (part.unmarked text).toList = part.unmarkedChars text.toList := by
  cases part with
  | host => rfl
  | path => rw [unmarked, withoutMarks, String.toList_ofList, scan, unmarkedChars]

theorem scan_unmarked (part : Part) (text : String) :
    scan .plain (part.unmarked text) = part.pieces text.toList := by
  rw [scan, toList_unmarked, pieces]

theorem slotNames_unmarked (part : Part) (text : String) :
    slotNames .plain (part.unmarked text) = part.names text.toList := by
  rw [slotNames, scan_unmarked, names]

theorem unmarkedChars_char (h : ∀ ending ∈ part.endings, slotName? ending (c :: cs) = none) :
    part.unmarkedChars (c :: cs) = c :: part.unmarkedChars cs := by
  cases part with
  | host => rfl
  | path =>
    rw [unmarkedChars, scanAfter_char (h .optional optional_mem_endings)]
    rfl

theorem unmarkedChars_slot (hending : ending ∈ part.endings) (hname : IsSlotName name)
    (cs : List Char) :
    part.unmarkedChars ('\x7b' :: (name.toList ++ (ending.chars ++ cs))) =
      '\x7b' :: (name.toList ++ (SlotEnd.plain.chars ++ part.unmarkedChars cs)) := by
  cases part with
  | host =>
    obtain rfl := List.mem_singleton.1 hending
    rfl
  | path =>
    rw [unmarkedChars]
    cases ending with
    | optional =>
      rw [scanAfter_slot hname]
      simp [Piece.text, unmarkedChars, SlotEnd.chars]
    | plain =>
      rw [scanAfter_of_ending_ne hname (by decide), List.flatMap_append, Piece.flatMap_text_map_char]
      simp [unmarkedChars]

/-- Marks stand after the braces of their placeholders. -/
theorem takeWhile_unmarkedChars (part : Part) (cs : List Char) :
    (part.unmarkedChars cs).takeWhile (fun c => c != '\x7b') =
      cs.takeWhile (fun c => c != '\x7b') := by
  cases part with
  | host => rfl
  | path =>
    have h := takeWhile_flatMap_written (fun _ => .plain) (fun _ => .optional)
      (scanAfter .optional 0 cs)
    rwa [scanAfter_written, Piece.flatMap_written_plain] at h

@[simp] theorem pieces_nil (part : Part) : part.pieces [] = [] := by
  cases part <;> rfl

theorem pieces_char (h : ∀ ending ∈ part.endings, slotName? ending (c :: cs) = none) :
    part.pieces (c :: cs) = .char c :: part.pieces cs := by
  have hnone : slotName? .plain (c :: part.unmarkedChars cs) = none := by
    rw [slotName?_congr (part.takeWhile_unmarkedChars cs)]
    exact h .plain part.plain_mem_endings
  rw [pieces, unmarkedChars_char h, scanAfter_char hnone, pieces]

/-- A character that is no brace is a piece of its own. -/
theorem pieces_of_ne (hc : c ≠ '\x7b') (cs : List Char) :
    part.pieces (c :: cs) = .char c :: part.pieces cs :=
  pieces_char fun _ _ => slotName?_of_ne hc cs

theorem pieces_slot (hending : ending ∈ part.endings) (hname : IsSlotName name) (cs : List Char) :
    part.pieces ('\x7b' :: (name.toList ++ (ending.chars ++ cs))) = .slot name :: part.pieces cs := by
  rw [pieces, unmarkedChars_slot hending hname, scanAfter_slot hname, pieces]

/-- The pieces of a text begin anew at every opening brace. -/
theorem pieces_append_brace (part : Part) (before rest : List Char) :
    part.pieces (before ++ '\x7b' :: rest) = part.pieces before ++ part.pieces ('\x7b' :: rest) := by
  induction before using slot_induction part.endings with
  | nil => rw [List.nil_append, pieces_nil, List.nil_append]
  | char c cs hnone ih =>
    have hnone' : ∀ ending ∈ part.endings,
        slotName? ending (c :: (cs ++ '\x7b' :: rest)) = none := by
      intro ending hending
      rw [slotName?_congr (takeWhile_append_brace cs rest)]
      exact hnone ending hending
    rw [List.cons_append, pieces_char hnone', pieces_char hnone, ih]
    rfl
  | slot ending hending name cs hname ih =>
    rw [List.cons_append, List.append_assoc, List.append_assoc, pieces_slot hending hname,
      pieces_slot hending hname, ih]
    rfl

/-- A placeholder is a piece between the pieces of the text before it and those of the text after it. -/
theorem pieces_append_slot (hending : ending ∈ part.endings) (hname : IsSlotName name)
    (before after : List Char) :
    part.pieces (before ++ '\x7b' :: (name.toList ++ (ending.chars ++ after))) =
      part.pieces before ++ .slot name :: part.pieces after := by
  rw [pieces_append_brace, pieces_slot hending hname]

end Part

/-! ### Names and their occurrences -/

/-- A placeholder is over before the next brace. -/
theorem exists_eq_append_of_brace {after : List Char} (hname : IsSlotName name)
    (h : name.toList ++ (ending.chars ++ after) = before ++ '\x7b' :: rest) :
    ∃ inner, before = name.toList ++ (ending.chars ++ inner) ∧ after = inner ++ '\x7b' :: rest := by
  rw [← List.append_assoc] at h
  rcases List.append_eq_append_iff.1 h with ⟨inner, rfl, hafter⟩ | ⟨inner, heq, hbrace⟩
  · exact ⟨inner, List.append_assoc _ _ _, hafter⟩
  · cases inner with
    | nil => exact ⟨[], by simpa using heq.symm, by simpa using hbrace.symm⟩
    | cons c inner =>
      obtain ⟨rfl, -⟩ := List.cons.inj hbrace
      -- Neither a name nor an ending holds an opening brace.
      have hmem : '\x7b' ∈ name.toList ++ ending.chars := by
        rw [heq]
        exact List.mem_append_right _ List.mem_cons_self
      rcases List.mem_append.1 hmem with hmem | hmem
      · exact absurd rfl (ne_brace_of_isSlotName hname _ hmem)
      · exact absurd rfl (SlotEnd.ne_brace_of_mem_chars _ hmem)

namespace OccursAt

/-- **The names before an occurrence are the names of the text before it.** -/
theorem names_eq (h : OccursAt part cs before name) :
    ∃ later, part.names cs = part.names before ++ name :: later := by
  obtain ⟨hname, ending, hending, after, rfl⟩ := h
  refine ⟨part.names after, ?_⟩
  rw [Part.names, Part.pieces_append_slot hending hname, List.filterMap_append]
  rfl

theorem mono (h : OccursAt part cs before name) (rest : List Char) :
    OccursAt part (cs ++ rest) before name := by
  obtain ⟨hname, ending, hending, after, rfl⟩ := h
  exact ⟨hname, ending, hending, after ++ rest, by simp⟩

theorem append_left (h : OccursAt part cs before name) (front : List Char) :
    OccursAt part (front ++ cs) (front ++ before) name := by
  obtain ⟨hname, ending, hending, after, rfl⟩ := h
  exact ⟨hname, ending, hending, after, (List.append_assoc _ _ _).symm⟩

theorem length_lt (h : OccursAt part cs before name) : before.length < cs.length := by
  obtain ⟨-, ending, -, after, rfl⟩ := h
  simp

/-- The text goes on with a brace where a placeholder stands. -/
theorem exists_eq_append (h : OccursAt part cs before name) : ∃ rest, cs = before ++ '\x7b' :: rest := by
  obtain ⟨-, ending, -, after, rfl⟩ := h
  exact ⟨_, rfl⟩

/-- Of two placeholders the first one ends before the second one begins. -/
theorem of_length_lt (h : OccursAt part (before ++ '\x7b' :: rest) cs name)
    (hlt : cs.length < before.length) : OccursAt part before cs name := by
  obtain ⟨hname, ending, hending, after, heq⟩ := h
  refine ⟨hname, ending, hending, ?_⟩
  -- The first one is at the beginning of what comes after `cs` in `before`.
  rcases List.append_eq_append_iff.1 heq with ⟨between, rfl, -⟩ | ⟨between, rfl, hrest⟩
  · rw [List.length_append] at hlt
    omega
  · cases between with
    | nil => simp at hlt
    | cons c between =>
      obtain ⟨rfl, hslot⟩ := List.cons.inj hrest
      obtain ⟨inner, rfl, -⟩ := exists_eq_append_of_brace hname hslot
      exact ⟨inner, rfl⟩

end OccursAt

/-- **Every name has an occurrence**, and the names before it are the names of the text before the
occurrence. -/
theorem exists_occursAt_of_names_eq {earlier later : List String}
    (h : part.names cs = earlier ++ name :: later) :
    ∃ before, OccursAt part cs before name ∧ part.names before = earlier := by
  induction cs using slot_induction part.endings generalizing earlier with
  | nil =>
    rw [Part.names, Part.pieces_nil] at h
    simp at h
  | char c cs hnone ih =>
    rw [Part.names, Part.pieces_char hnone] at h
    obtain ⟨before, hoccurs, hbefore⟩ := ih h
    refine ⟨c :: before, hoccurs.append_left [c], ?_⟩
    -- Without the text after it, the character begins no placeholder either.
    obtain ⟨rest, rfl⟩ := hoccurs.exists_eq_append
    have hnone' : ∀ ending ∈ part.endings, slotName? ending (c :: before) = none := by
      intro ending hending
      rw [← slotName?_congr (takeWhile_append_brace before rest)]
      exact hnone ending hending
    rw [Part.names, Part.pieces_char hnone']
    exact hbefore
  | slot ending hending other cs hother ih =>
    rw [Part.names, Part.pieces_slot hending hother] at h
    cases earlier with
    | nil =>
      obtain rfl : other = name := (List.cons.inj h).1
      exact ⟨[], ⟨hother, ending, hending, cs, rfl⟩, by rw [Part.names, Part.pieces_nil]; rfl⟩
    | cons first earlier =>
      obtain ⟨rfl, hnames⟩ : other = first ∧ part.names cs = earlier ++ name :: later :=
        List.cons.inj h
      obtain ⟨before, hoccurs, rfl⟩ := ih hnames
      have hbefore := hoccurs.append_left ('\x7b' :: (other.toList ++ ending.chars))
      refine ⟨'\x7b' :: (other.toList ++ (ending.chars ++ before)), by simpa using hbefore, ?_⟩
      rw [Part.names, Part.pieces_slot hending hother]
      rfl

theorem mem_names_iff : name ∈ part.names cs ↔ ∃ before, OccursAt part cs before name := by
  constructor
  · intro h
    obtain ⟨earlier, later, h⟩ := List.append_of_mem h
    obtain ⟨before, hoccurs, -⟩ := exists_occursAt_of_names_eq h
    exact ⟨before, hoccurs⟩
  · rintro ⟨before, h⟩
    obtain ⟨later, h⟩ := h.names_eq
    simp [h]

/-- What stands before an occurrence are the names of the text before it. -/
theorem OccursAt.occursBefore_iff {other : String} (h : OccursAt part cs before name) :
    OccursBefore part cs before other ↔ other ∈ part.names before := by
  obtain ⟨rest, rfl⟩ := h.exists_eq_append
  rw [mem_names_iff]
  constructor
  · rintro ⟨earlier, hoccurs, hlt⟩
    exact ⟨earlier, hoccurs.of_length_lt hlt⟩
  · rintro ⟨earlier, hoccurs⟩
    exact ⟨earlier, hoccurs.mono _, hoccurs.length_lt⟩

end RoutePatterns
