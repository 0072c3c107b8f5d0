import Mathlib.Data.List.TakeWhile
import RoutePatterns.Pattern.Placeholder

/-!
# What a scan finds

A scan cuts a text into pieces, and the pieces can be written as a text again, each placeholder with an
ending of its own (`Piece.written`). Nothing is lost in this way (`scanAfter_written`), and in the pieces
that a scan gives no placeholder is left among the characters (`proper_scanAfter`).

The other direction is `scanAfter_flatMap_written`: the text of such pieces, with any endings, is cut into
the same pieces again, but for the placeholders that are written with another ending than the one looked
for; these are then seen as characters. The reason is that a scan that looks for a placeholder stops at the
next opening brace (`slotName?_congr`), so the endings of the placeholders after it do not matter.
-/

namespace RoutePatterns

/-- The name of a placeholder: one or more word characters. -/
def IsSlotName (name : String) : Prop :=
  name.toList ≠ [] ∧ ∀ c ∈ name.toList, Unicode.isWord c = true

instance (name : String) : Decidable (IsSlotName name) :=
  decidable_of_iff (name.toList ≠ [] ∧ name.toList.all Unicode.isWord = true) <| by
    rw [IsSlotName, List.all_eq_true]

namespace SlotEnd

/-- An ending begins with a character that is no word character. -/
theorem exists_chars_eq_cons (ending : SlotEnd) :
    ∃ d ds, ending.chars = d :: ds ∧ Unicode.isWord d = false := by
  cases ending with
  | plain => exact ⟨_, _, rfl, rfl⟩
  | optional => exact ⟨_, _, rfl, rfl⟩

theorem ne_brace_of_mem_chars {ending : SlotEnd} : ∀ c ∈ ending.chars, c ≠ '\x7b' := by
  cases ending <;> simp [chars]

/-- No ending is the beginning of another one. -/
theorem eq_of_chars_append_eq {ending ending' : SlotEnd} {cs cs' : List Char}
    (h : ending.chars ++ cs = ending'.chars ++ cs') : ending = ending' := by
  cases ending <;> cases ending' <;> simp_all [chars]

end SlotEnd

/-! ### The placeholder that a text begins with -/

variable {ending : SlotEnd} {c : Char} {cs cs' : List Char}

theorem takeWhile_isWord_append (ending : SlotEnd) {name : List Char} (rest : List Char)
    (hname : ∀ c ∈ name, Unicode.isWord c = true) :
    (name ++ (ending.chars ++ rest)).takeWhile Unicode.isWord = name ∧
      (name ++ (ending.chars ++ rest)).dropWhile Unicode.isWord = ending.chars ++ rest := by
  obtain ⟨d, ds, hchars, hd⟩ := ending.exists_chars_eq_cons
  constructor
  · simp [List.takeWhile_append_of_pos hname, hchars, hd]
  · simp [List.dropWhile_append_of_pos hname, hchars, hd]

/-- A text begins with one placeholder at most. -/
theorem slot_inj {ending' : SlotEnd} {name name' : List Char} (hname : ∀ c ∈ name, Unicode.isWord c = true)
    (hname' : ∀ c ∈ name', Unicode.isWord c = true)
    (h : name ++ (ending.chars ++ cs) = name' ++ (ending'.chars ++ cs')) :
    name = name' ∧ ending = ending' ∧ cs = cs' := by
  obtain ⟨htake, -⟩ := takeWhile_isWord_append ending cs hname
  obtain ⟨htake', -⟩ := takeWhile_isWord_append ending' cs' hname'
  -- Both names end where the word characters end, so the endings stand at the same place.
  obtain rfl : name = name' := by rw [← htake, h, htake']
  have hrest : ending.chars ++ cs = ending'.chars ++ cs' := List.append_cancel_left h
  obtain rfl := SlotEnd.eq_of_chars_append_eq hrest
  exact ⟨rfl, rfl, List.append_cancel_left hrest⟩

theorem slotName?_eq_some_iff {name : List Char} :
    slotName? ending cs = some name ↔
      name ≠ [] ∧ (∀ c ∈ name, Unicode.isWord c = true) ∧
        ∃ rest, cs = '\x7b' :: (name ++ (ending.chars ++ rest)) := by
  constructor
  · intro h
    cases cs with
    | nil => cases h
    | cons c cs =>
      rw [slotName?] at h
      split at h
      · next hslot =>
        obtain ⟨rfl, hne, hending⟩ := hslot
        obtain rfl := Option.some.inj h
        obtain ⟨rest, hrest⟩ := List.isPrefixOf_iff_prefix.1 hending
        refine ⟨hne, fun c hc => List.mem_takeWhile_imp hc, rest, ?_⟩
        rw [hrest, List.takeWhile_append_dropWhile]
      · cases h
  · rintro ⟨hne, hname, rest, rfl⟩
    obtain ⟨htake, hdrop⟩ := takeWhile_isWord_append ending rest hname
    have hprefix : ending.chars.isPrefixOf (ending.chars ++ rest) = true :=
      List.isPrefixOf_iff_prefix.2 (List.prefix_append _ _)
    rw [slotName?, htake, hdrop, if_pos ⟨rfl, hne, hprefix⟩]

theorem slotName?_slot {name : String} (hname : IsSlotName name) (ending : SlotEnd) (rest : List Char) :
    slotName? ending ('\x7b' :: (name.toList ++ (ending.chars ++ rest))) = some name.toList :=
  slotName?_eq_some_iff.2 ⟨hname.1, hname.2, rest, rfl⟩

/-- A placeholder begins with a brace. -/
theorem slotName?_of_ne (hc : c ≠ '\x7b') (cs : List Char) : slotName? ending (c :: cs) = none := by
  rw [slotName?, if_neg]
  exact fun h => hc h.1

/-- Of a placeholder with another ending, only the brace is seen. -/
theorem slotName?_of_ending_ne {name : String} (hname : IsSlotName name) {ending' : SlotEnd}
    (hne : ending' ≠ ending) (rest : List Char) :
    slotName? ending ('\x7b' :: (name.toList ++ (ending'.chars ++ rest))) = none := by
  cases h : slotName? ending ('\x7b' :: (name.toList ++ (ending'.chars ++ rest))) with
  | none => rfl
  | some word =>
    obtain ⟨-, hword, rest', heq⟩ := slotName?_eq_some_iff.1 h
    exact absurd (slot_inj hname.2 hword (List.cons.inj heq).2).2.1 hne

/-- **A scan that looks for a placeholder stops at the next opening brace.** -/
theorem slotName?_congr
    (h : cs.takeWhile (fun c => c != '\x7b') = cs'.takeWhile (fun c => c != '\x7b')) :
    slotName? ending (c :: cs) = slotName? ending (c :: cs') := by
  have hsub {cs cs' : List Char} {name : List Char}
      (h : cs.takeWhile (fun c => c != '\x7b') = cs'.takeWhile (fun c => c != '\x7b'))
      (hsome : slotName? ending (c :: cs) = some name) : slotName? ending (c :: cs') = some name := by
    obtain ⟨hne, hname, rest, heq⟩ := slotName?_eq_some_iff.1 hsome
    obtain ⟨rfl, rfl⟩ := List.cons.inj heq
    refine slotName?_eq_some_iff.2 ⟨hne, hname, ?_⟩
    have hkept : ∀ d ∈ name ++ ending.chars, (d != '\x7b') = true := by
      intro d hd
      rw [bne_iff_ne]
      rcases List.mem_append.1 hd with hd | hd
      · rintro rfl
        cases hname _ hd
      · exact SlotEnd.ne_brace_of_mem_chars d hd
    rw [← List.append_assoc, List.takeWhile_append_of_pos hkept] at h
    -- What stands before the brace stands in the other text as well.
    refine ⟨rest.takeWhile (fun c => c != '\x7b') ++ cs'.dropWhile (fun c => c != '\x7b'), ?_⟩
    rw [← List.append_assoc, ← List.append_assoc, h, List.takeWhile_append_dropWhile]
  apply Option.ext
  intro name
  exact ⟨hsub h, hsub h.symm⟩

/-! ### Pieces that are written -/

namespace Piece

/-- The text of a piece, where a placeholder is written with the ending for its name. -/
def written (endings : String → SlotEnd) : Piece → List Char
  | char c => [c]
  | slot name => '\x7b' :: (name.toList ++ (endings name).chars)

/-- The pieces as which a piece is seen by a scan for an ending: a placeholder that is written with
another ending is seen as characters. -/
def seen (ending : SlotEnd) (endings : String → SlotEnd) : Piece → List Piece
  | char c => [char c]
  | slot name =>
    if endings name = ending then [slot name]
    else ((slot name).written endings).map char

theorem written_plain (piece : Piece) : piece.written (fun _ => .plain) = piece.text := by
  cases piece <;> rfl

theorem flatMap_written_plain (pieces : List Piece) :
    pieces.flatMap (written fun _ => .plain) = pieces.flatMap text := by
  have heq : (written fun _ => .plain) = text := funext written_plain
  rw [heq]

end Piece

/-- The characters of a list of pieces begin no placeholder with a certain ending, and its placeholders
have names of placeholders. -/
inductive Proper (ending : SlotEnd) : List Piece → Prop where
  | nil : Proper ending []
  | char {c : Char} {pieces : List Piece}
      (hnone : slotName? ending (c :: pieces.flatMap Piece.text) = none)
      (hpieces : Proper ending pieces) : Proper ending (.char c :: pieces)
  | slot {name : String} {pieces : List Piece} (hname : IsSlotName name)
      (hpieces : Proper ending pieces) : Proper ending (.slot name :: pieces)

variable {endings endings' : String → SlotEnd} {pieces : List Piece}

/-- The endings of placeholders stand after their braces. -/
theorem takeWhile_flatMap_written (endings endings' : String → SlotEnd) (pieces : List Piece) :
    (pieces.flatMap (Piece.written endings)).takeWhile (fun c => c != '\x7b') =
      (pieces.flatMap (Piece.written endings')).takeWhile (fun c => c != '\x7b') := by
  induction pieces with
  | nil => rfl
  | cons piece pieces ih =>
    cases piece with
    | char c =>
      by_cases hc : c = '\x7b'
      · simp [Piece.written, hc]
      · simp [Piece.written, hc, ih]
    | slot name => simp [Piece.written]

theorem slotName?_flatMap_written (endings : String → SlotEnd) (c : Char) (pieces : List Piece) :
    slotName? ending (c :: pieces.flatMap (Piece.written endings)) =
      slotName? ending (c :: pieces.flatMap Piece.text) := by
  rw [← Piece.flatMap_written_plain]
  exact slotName?_congr (takeWhile_flatMap_written endings _ pieces)

/-! ### Scanning what is written -/

theorem scanAfter_char (h : slotName? ending (c :: cs) = none) :
    scanAfter ending 0 (c :: cs) = .char c :: scanAfter ending 0 cs := by
  rw [scanAfter]
  simp only [h]

theorem scanAfter_slot {name : String} (hname : IsSlotName name) (cs : List Char) :
    scanAfter ending 0 ('\x7b' :: (name.toList ++ (ending.chars ++ cs))) =
      .slot name :: scanAfter ending 0 cs := by
  rw [scanAfter]
  simp only [slotName?_slot hname, String.ofList_toList]
  rw [scanAfter_eq_drop, ← List.append_assoc, ← List.length_append, List.drop_left]

/-- Characters other than braces are passed over one at a time. -/
theorem scanAfter_append_of_ne {s : List Char} (hs : ∀ c ∈ s, c ≠ '\x7b') :
    scanAfter ending 0 (s ++ cs) = s.map Piece.char ++ scanAfter ending 0 cs := by
  induction s with
  | nil => rfl
  | cons c s ih =>
    obtain ⟨hc, hs⟩ := List.forall_mem_cons.1 hs
    rw [List.cons_append, scanAfter_char (slotName?_of_ne hc _), ih hs]
    rfl

theorem ne_brace_of_isSlotName {name : String} (hname : IsSlotName name) :
    ∀ c ∈ name.toList, c ≠ '\x7b' := by
  rintro c hc rfl
  cases hname.2 _ hc

/-- Of a placeholder with another ending, only the characters are seen. -/
theorem scanAfter_of_ending_ne {name : String} (hname : IsSlotName name) {ending' : SlotEnd}
    (hne : ending' ≠ ending) (cs : List Char) :
    scanAfter ending 0 ('\x7b' :: (name.toList ++ (ending'.chars ++ cs))) =
      ('\x7b' :: (name.toList ++ ending'.chars)).map Piece.char ++ scanAfter ending 0 cs := by
  have hbrace : ∀ c ∈ name.toList ++ ending'.chars, c ≠ '\x7b' := by
    intro c hc
    rcases List.mem_append.1 hc with hc | hc
    · exact ne_brace_of_isSlotName hname c hc
    · exact SlotEnd.ne_brace_of_mem_chars c hc
  rw [scanAfter_char (slotName?_of_ending_ne hname hne _), ← List.append_assoc,
    scanAfter_append_of_ne hbrace]
  rfl

/-- **Pieces that are written are seen again**, but for the placeholders with another ending. -/
theorem scanAfter_flatMap_written (h : Proper ending pieces) (endings : String → SlotEnd) :
    scanAfter ending 0 (pieces.flatMap (Piece.written endings)) =
      pieces.flatMap (Piece.seen ending endings) := by
  induction h with
  | nil => rfl
  | @char c pieces hnone _ ih =>
    rw [List.flatMap_cons, List.flatMap_cons, ← ih]
    rw [← slotName?_flatMap_written endings] at hnone
    exact scanAfter_char hnone
  | @slot name pieces hname _ ih =>
    rw [List.flatMap_cons, List.flatMap_cons, ← ih]
    simp only [Piece.written, Piece.seen, List.cons_append, List.append_assoc]
    by_cases hending : endings name = ending
    · rw [if_pos hending, hending]
      exact scanAfter_slot hname _
    · rw [if_neg hending, scanAfter_of_ending_ne hname hending]

/-! ### What a scan gives -/

/-- A text falls into the placeholder with one of `endings`, or else the character, that it begins with, and
the rest. -/
theorem slot_induction {motive : List Char → Prop} (endings : List SlotEnd) (nil : motive [])
    (char : ∀ c cs, (∀ ending ∈ endings, slotName? ending (c :: cs) = none) → motive cs →
      motive (c :: cs))
    (slot : ∀ ending ∈ endings, ∀ name cs, IsSlotName name → motive cs →
      motive ('\x7b' :: (name.toList ++ (ending.chars ++ cs)))) (cs : List Char) : motive cs := by
  induction hn : cs.length using Nat.strong_induction_on generalizing cs with
  | _ n ih =>
    subst hn
    cases cs with
    | nil => exact nil
    | cons c cs =>
      by_cases hsome : ∃ ending ∈ endings, ∃ name, slotName? ending (c :: cs) = some name
      · obtain ⟨ending, hending, name, h⟩ := hsome
        obtain ⟨hne, hname, rest, heq⟩ := slotName?_eq_some_iff.1 h
        rw [heq]
        have hslot := slot ending hending (String.ofList name) rest
          (by simpa [IsSlotName] using ⟨hne, hname⟩)
          (ih rest.length (by rw [heq]; simp; omega) rest rfl)
        rwa [String.toList_ofList] at hslot
      · have hnone : ∀ ending ∈ endings, slotName? ending (c :: cs) = none := fun ending hending =>
          Option.eq_none_iff_forall_ne_some.2 fun name h => hsome ⟨ending, hending, name, h⟩
        exact char c cs hnone (ih cs.length (by simp) cs rfl)

/-- A text falls into the placeholder or the character that it begins with, and the rest. -/
theorem scan_induction {motive : List Char → Prop} (ending : SlotEnd) (nil : motive [])
    (char : ∀ c cs, slotName? ending (c :: cs) = none → motive cs → motive (c :: cs))
    (slot : ∀ name cs, IsSlotName name → motive cs →
      motive ('\x7b' :: (name.toList ++ (ending.chars ++ cs)))) (cs : List Char) : motive cs := by
  induction cs using slot_induction [ending] with
  | nil => exact nil
  | char c cs hnone ih => exact char c cs (hnone ending List.mem_cons_self) ih
  | slot ending' hending name cs hname ih =>
    obtain rfl := List.mem_singleton.1 hending
    exact slot name cs hname ih

/-- **Nothing is lost by a scan.** -/
theorem scanAfter_written (ending : SlotEnd) (cs : List Char) :
    (scanAfter ending 0 cs).flatMap (Piece.written fun _ => ending) = cs := by
  induction cs using scan_induction ending with
  | nil => rfl
  | char c cs h ih => rw [scanAfter_char h, List.flatMap_cons, ih]; rfl
  | slot name cs hname ih =>
    rw [scanAfter_slot hname, List.flatMap_cons, ih]
    simp [Piece.written]

theorem proper_scanAfter (ending : SlotEnd) (cs : List Char) :
    Proper ending (scanAfter ending 0 cs) := by
  induction cs using scan_induction ending with
  | nil => exact .nil
  | char c cs h ih =>
    rw [scanAfter_char h]
    refine .char ?_ ih
    rw [← slotName?_flatMap_written (fun _ => ending), scanAfter_written]
    exact h
  | slot name cs hname ih =>
    rw [scanAfter_slot hname]
    exact .slot hname ih

theorem takeWhile_append_brace (cs rest : List Char) :
    (cs ++ '\x7b' :: rest).takeWhile (fun c => c != '\x7b') = cs.takeWhile (fun c => c != '\x7b') := by
  induction cs with
  | nil => rfl
  | cons c cs ih =>
    by_cases hc : c = '\x7b'
    · simp [hc]
    · simp [hc, ih]

/-- **A scan begins anew at every opening brace**, since no placeholder holds one inside of it. -/
theorem scanAfter_append_brace (ending : SlotEnd) (before rest : List Char) :
    scanAfter ending 0 (before ++ '\x7b' :: rest) =
      scanAfter ending 0 before ++ scanAfter ending 0 ('\x7b' :: rest) := by
  induction before using scan_induction ending with
  | nil => rfl
  | char c cs hnone ih =>
    have hnone' : slotName? ending (c :: (cs ++ '\x7b' :: rest)) = none := by
      rw [slotName?_congr (takeWhile_append_brace cs rest)]
      exact hnone
    rw [List.cons_append, scanAfter_char hnone', scanAfter_char hnone, ih]
    rfl
  | slot name cs hname ih =>
    rw [List.cons_append, List.append_assoc, List.append_assoc, scanAfter_slot hname,
      scanAfter_slot hname, ih]
    rfl

theorem proper_scan (ending : SlotEnd) (s : String) : Proper ending (scan ending s) := by
  rw [scan]
  exact proper_scanAfter ending s.toList

theorem Proper.isSlotName_of_mem (h : Proper ending pieces) {name : String}
    (hmem : name ∈ pieces.filterMap Piece.name?) : IsSlotName name := by
  induction h with
  | nil => cases hmem
  | char _ _ ih => exact ih hmem
  | slot hname _ ih =>
    rcases List.mem_cons.1 hmem with rfl | hmem
    · exact hname
    · exact ih hmem

/-- A placeholder that is found has a name of one or more word characters. -/
theorem isSlotName_of_mem_slotNames {s name : String} (h : name ∈ slotNames ending s) :
    IsSlotName name :=
  (proper_scan ending s).isSlotName_of_mem h

theorem flatMap_text_scan (s : String) : (scan .plain s).flatMap Piece.text = s.toList := by
  rw [← Piece.flatMap_written_plain, scan]
  exact scanAfter_written .plain s.toList

/-! ### Marks of optional placeholders -/

/-- No placeholder with a certain ending begins anywhere in a text. -/
def Unslotted (ending : SlotEnd) (cs : List Char) : Prop :=
  ∀ before c after, cs = before ++ c :: after → slotName? ending (c :: after) = none

/-- Pieces that are written as a text without placeholders of an ending are proper for that ending. -/
theorem Unslotted.proper {ending' : SlotEnd} (hpieces : Proper ending' pieces)
    (h : Unslotted ending (pieces.flatMap Piece.text)) : Proper ending pieces := by
  induction hpieces with
  | nil => exact .nil
  | @char c pieces _ _ ih =>
    have hrest : Unslotted ending (pieces.flatMap Piece.text) := by
      intro before d after heq
      refine h (c :: before) d after ?_
      rw [List.flatMap_cons, heq]
      rfl
    exact .char (h [] c _ rfl) (ih hrest)
  | @slot name pieces hname _ ih =>
    have hrest : Unslotted ending (pieces.flatMap Piece.text) := by
      intro before d after heq
      refine h ((Piece.slot name).text ++ before) d after ?_
      rw [List.flatMap_cons, heq, List.append_assoc]
    exact .slot hname (ih hrest)

theorem unslotted_of_scanAfter (h : (scanAfter ending 0 cs).filterMap Piece.name? = []) :
    Unslotted ending cs := by
  induction cs using scan_induction ending with
  | nil =>
    intro before c after heq
    simp at heq
  | char c cs hnone ih =>
    rw [scanAfter_char hnone] at h
    intro before d after heq
    cases before with
    | nil =>
      obtain ⟨rfl, rfl⟩ := List.cons.inj heq
      exact hnone
    | cons b before => exact ih h before d after (List.cons.inj heq).2
  | slot name cs hname ih =>
    rw [scanAfter_slot hname] at h
    cases h

namespace Piece

theorem flatMap_written_map_char (endings : String → SlotEnd) (cs : List Char) :
    (cs.map char).flatMap (written endings) = cs := by
  induction cs with
  | nil => rfl
  | cons c cs ih => simpa [written] using ih

theorem flatMap_text_map_char (cs : List Char) : (cs.map char).flatMap text = cs := by
  rw [← flatMap_written_plain, flatMap_written_map_char]

theorem filterMap_name?_map_char (cs : List Char) : (cs.map char).filterMap name? = [] := by
  induction cs with
  | nil => rfl
  | cons c cs ih => exact ih

/-- Without the marks, a placeholder that is seen by its mark is the same as one without a mark. -/
theorem flatMap_text_seen (endings : String → SlotEnd) (pieces : List Piece) :
    (pieces.flatMap (seen .optional endings)).flatMap text = pieces.flatMap text := by
  induction pieces with
  | nil => rfl
  | cons piece pieces ih =>
    rw [List.flatMap_cons, List.flatMap_cons, List.flatMap_append, ih]
    cases piece with
    | char c => rfl
    | slot name =>
      cases hending : endings name with
      | optional => simp [seen, hending]
      | plain =>
        have hseen : seen .optional endings (slot name) = ((slot name).written endings).map char := by
          simp [seen, hending]
        rw [hseen, flatMap_text_map_char, written, hending]
        rfl

theorem seen_plain : seen .plain (fun _ => .plain) = fun piece => [piece] := by
  funext piece
  cases piece <;> rfl

/-- The placeholders that are seen are those with the ending. -/
theorem filterMap_name?_seen (endings : String → SlotEnd) (pieces : List Piece) :
    (pieces.flatMap (seen ending endings)).filterMap name? =
      (pieces.filterMap name?).filter fun name => endings name = ending := by
  induction pieces with
  | nil => rfl
  | cons piece pieces ih =>
    rw [List.flatMap_cons, List.filterMap_append, ih]
    cases piece with
    | char c => rfl
    | slot name =>
      by_cases hending : endings name = ending
      · simp [seen, hending, name?]
      · have hseen : seen ending endings (slot name) = ((slot name).written endings).map char := by
          simp [seen, hending]
        rw [hseen, filterMap_name?_map_char]
        simp [hending, name?]

end Piece

theorem withoutMarks_written (h : Proper .optional pieces) (endings : String → SlotEnd) :
    withoutMarks (String.ofList (pieces.flatMap (Piece.written endings))) =
      String.ofList (pieces.flatMap Piece.text) := by
  rw [withoutMarks, scan, String.toList_ofList, scanAfter_flatMap_written h, Piece.flatMap_text_seen]

theorem optionalNames_written (h : Proper .optional pieces) (endings : String → SlotEnd) :
    optionalNames (String.ofList (pieces.flatMap (Piece.written endings))) =
      (pieces.filterMap Piece.name?).filter fun name => endings name = .optional := by
  rw [optionalNames, slotNames, scan, String.toList_ofList, scanAfter_flatMap_written h,
    Piece.filterMap_name?_seen]

/-- **Leaving out the marks of a path leaves no marks**: no new ones come about. -/
theorem unslotted_withoutMarks (path : String) : Unslotted .optional (withoutMarks path).toList := by
  apply unslotted_of_scanAfter
  rw [withoutMarks, String.toList_ofList, ← Piece.flatMap_written_plain,
    scanAfter_flatMap_written (proper_scan .optional path), Piece.filterMap_name?_seen]
  simp

/-- In the pieces of a path whose marks are left out, no marked placeholder is left. -/
theorem proper_scan_withoutMarks (path : String) :
    Proper .optional (scan .plain (withoutMarks path)) := by
  have hunslotted := unslotted_withoutMarks path
  rw [← flatMap_text_scan] at hunslotted
  exact hunslotted.proper (proper_scan .plain _)

end RoutePatterns
