import Mathlib.Data.List.TakeWhile
import RoutePatterns.Proofs.Regex.Lexeme

/-!
# Steps before a closing parenthesis

A text in a group is followed by a closing parenthesis. `Reader.step_paren` shows that the parenthesis
does not change how a lexeme of the text is read, inside or outside of a class, unless a comment that
is still open at the end of the text takes the parenthesis with it.
-/

namespace RoutePatterns

namespace Regex

/-! ### Classes -/

theorem peekFrom_append {comment : Bool} {cs : List Char} {c : Char}
    (h : peekFrom comment cs = some c) (t : List Char) :
    peekFrom comment (cs ++ t) = some c := by
  induction cs generalizing comment with
  | nil => cases h
  | cons d cs ih =>
    rw [peekFrom] at h
    rw [List.cons_append, peekFrom]
    split at h
    · next hb => rw [if_pos hb, ih h]
    · next hb =>
      rw [if_neg hb]
      split at h
      · next hs => rw [if_pos hs, ih h]
      · next hs => rw [if_neg hs, h]

theorem skipFrom_eq_nil_of_peekFrom {comment comment' : Bool} {cs : List Char}
    (h : peekFrom comment cs = none) (hc : comment' = true → comment = true) :
    skipFrom true comment' cs = [] := by
  induction cs generalizing comment comment' with
  | nil => rfl
  | cons c cs ih =>
    rw [peekFrom] at h
    rw [skipFrom_cons, if_pos rfl, passed]
    split at h
    · next hb =>
      cases comment' with
      | true =>
        obtain rfl := hc rfl
        exact ih h fun _ => rfl
      | false =>
        simp only [Bool.false_eq_true, if_false, hb, Bool.and_self, if_true]
        exact ih h fun h => absurd h Bool.false_ne_true
    · next hb =>
      split at h
      · next hs =>
        obtain ⟨hcomment, hs⟩ := Bool.and_eq_true_iff.1 hs
        cases comment' with
        | true => simp [hc rfl] at hcomment
        | false =>
          simp only [Bool.false_eq_true, if_false, hb, hs, Bool.and_self, Bool.and_false, if_true]
          exact ih h fun _ => rfl
      · cases h

/-- The character that decides about a hyphen is in the text, if anything is left of it. -/
theorem peek_append_of_skip {verbose : Bool} {cs rest : List Char} {c : Char}
    (h : skip verbose cs = c :: rest) (t : List Char) :
    peek verbose (cs ++ t) = peek verbose cs := by
  cases verbose with
  | false =>
    cases cs with
    | nil => cases h
    | cons d cs => rfl
  | true =>
    cases hp : peekFrom false cs with
    | none =>
      rw [show skip true cs = [] from skipFrom_eq_nil_of_peekFrom hp fun h => h] at h
      cases h
    | some d => simp [peek, hp, peekFrom_append hp t]

theorem peek_append_of_eq {verbose : Bool} {cs : List Char} {c : Char} (hc : c = ']' ∨ c = '-')
    (h : peek verbose cs = some c) (t : List Char) : peek verbose (cs ++ t) = some c := by
  cases cs with
  | nil => cases verbose <;> cases h
  | cons d cs =>
    cases verbose with
    | false => exact h
    | true =>
      cases hp : peekFrom false (d :: cs) with
      | none =>
        obtain rfl : d = c := by simpa [peek, hp] using h
        rcases hc with rfl | rfl <;> cases hp
      | some d' =>
        obtain rfl : d' = c := by simpa [peek, hp] using h
        simp only [peek, peekFrom_append hp t, if_true, Option.some_or]

theorem classItem?_of_ne {verbose : Bool} {c : Char} (hc : c ≠ '\\') (cs : List Char) :
    classItem? verbose (c :: cs) = some (.char ⟨c, false⟩, cs) := by
  rw [classItem?]
  exact hc

theorem classItem?_paren {verbose : Bool} {cs rest : List Char} {item : ClassSyntax} {c : Char}
    (h : classItem? verbose cs = some (item, c :: rest)) (t : List Char) :
    classItem? verbose (cs ++ ')' :: t) = some (item, c :: (rest ++ ')' :: t)) := by
  cases cs with
  | nil => cases h
  | cons d cs =>
    by_cases hd : d = '\\'
    · subst hd
      simp only [List.cons_append, classItem?, Option.bind_eq_bind, Option.bind_eq_some_iff] at h ⊢
      obtain ⟨⟨e, rest'⟩, he, item', hitem, heq⟩ := h
      obtain ⟨rfl, rfl⟩ := Prod.mk.inj (Option.some.inj heq)
      exact ⟨_, (stable_escape? verbose).of_cons he t, _, hitem, rfl⟩
    · rw [classItem?_of_ne hd] at h
      rw [List.cons_append, classItem?_of_ne hd]
      obtain ⟨rfl, rfl⟩ := Prod.mk.inj (Option.some.inj h)
      rfl

/-- A hyphen begins a range, unless a bracket or another hyphen follows. -/
def BeginsRange (verbose : Bool) (cs : List Char) : Prop :=
  peek verbose cs ≠ some ']' ∧ peek verbose cs ≠ some '-'

theorem beginsRange_of_append {verbose : Bool} {cs t : List Char}
    (h : BeginsRange verbose (cs ++ t)) : BeginsRange verbose cs :=
  ⟨fun hpeek => h.1 (peek_append_of_eq (.inl rfl) hpeek t),
    fun hpeek => h.2 (peek_append_of_eq (.inr rfl) hpeek t)⟩

/-- **What an item of a class can be**: a single one before something else than a range, or a range. -/
theorem classRange?_eq_some_iff {verbose : Bool} {cs rest : List Char} {item : ClassSyntax} :
    classRange? verbose cs = some (item, rest) ↔ ∃ low y, classItem? verbose cs = some (low, y) ∧
      ((∀ z, skip verbose y = '-' :: z → ¬ BeginsRange verbose z) ∧ item = low ∧
          rest = skip verbose y ∨
        ∃ z a b, skip verbose y = '-' :: z ∧ BeginsRange verbose z ∧ low = .char a ∧
          classItem? verbose (skip verbose z) = some (.char b, rest) ∧ a.char ≤ b.char ∧
          item = .range a b) := by
  simp only [classRange?, Option.bind_eq_bind, Option.bind_eq_some_iff]
  constructor
  · rintro ⟨⟨low, y⟩, hlow, h⟩
    refine ⟨low, y, hlow, ?_⟩
    simp only at h
    split at h
    · next z hskip =>
      split at h
      · next hpeek =>
        obtain ⟨rfl, rfl⟩ := Prod.mk.inj (Option.some.inj h)
        refine .inl ⟨fun z' hz' hbegins => ?_, rfl, hskip.symm⟩
        obtain rfl := (List.cons.inj (hskip.symm.trans hz')).2
        exact hpeek.elim hbegins.1 hbegins.2
      · next hpeek =>
        obtain ⟨⟨high, x⟩, hhigh, h⟩ := Option.bind_eq_some_iff.1 h
        split at h
        · next heq _ =>
          obtain ⟨rfl, rfl⟩ := Prod.mk.inj heq
          split at h
          · next hle =>
            obtain ⟨rfl, rfl⟩ := Prod.mk.inj (Option.some.inj h)
            exact .inr ⟨z, _, _, hskip, not_or.1 hpeek, rfl, hhigh, hle, rfl⟩
          · cases h
        · cases h
    · next hhyphen =>
      obtain ⟨rfl, rfl⟩ := Prod.mk.inj (Option.some.inj h)
      exact .inl ⟨fun z hz => (hhyphen z hz).elim, rfl, rfl⟩
  · rintro ⟨low, y, hlow, ⟨hsingle, rfl, rfl⟩ | ⟨z, a, b, hskip, hbegins, rfl, hhigh, hle, rfl⟩⟩
    · refine ⟨_, hlow, ?_⟩
      simp only
      split
      · next z hskip =>
        have hpeek : peek verbose z = some ']' ∨ peek verbose z = some '-' := by
          by_contra hnone
          exact hsingle z hskip (not_or.1 hnone)
        rw [if_pos hpeek, hskip]
        rfl
      · rfl
    · refine ⟨_, hlow, ?_⟩
      simp only [hskip, hhigh, Option.bind_some, if_pos hle]
      rw [if_neg (not_or.2 hbegins)]
      rfl

theorem classRange?_paren {verbose : Bool} {cs rest : List Char} {item : ClassSyntax} {c : Char}
    (h : classRange? verbose cs = some (item, c :: rest)) (t : List Char) :
    classRange? verbose (cs ++ ')' :: t) = some (item, c :: (rest ++ ')' :: t)) := by
  obtain ⟨low, y, hlow, h⟩ := classRange?_eq_some_iff.1 h
  -- Something is left after the first item, so the parenthesis is far from it.
  obtain ⟨e, y, rfl⟩ : ∃ e y', y = e :: y' := by
    refine List.exists_cons_of_ne_nil ?_
    rintro rfl
    rcases h with ⟨-, -, heq⟩ | ⟨z, a, b, hskip, -⟩
    · cases heq
    · cases hskip
  refine classRange?_eq_some_iff.2 ⟨low, _, classItem?_paren hlow t, ?_⟩
  rcases h with ⟨hsingle, rfl, hrest⟩ | ⟨z, a, b, hskip, hbegins, rfl, hhigh, hle, rfl⟩
  · have happ : skip verbose (e :: (y ++ ')' :: t)) = c :: (rest ++ ')' :: t) :=
      skipFrom_append hrest.symm _
    refine .inl ⟨fun z hz hbegins => ?_, rfl, happ.symm⟩
    obtain ⟨rfl, rfl⟩ := List.cons.inj (happ.symm.trans hz)
    exact hsingle rest hrest.symm (beginsRange_of_append hbegins)
  · obtain ⟨d, z', hz⟩ : ∃ d z', skip verbose z = d :: z' := by
      refine List.exists_cons_of_ne_nil fun hnil => ?_
      rw [hnil] at hhigh
      cases hhigh
    refine .inr ⟨z ++ ')' :: t, a, b, skipFrom_append hskip _, ?_, rfl, ?_, hle, rfl⟩
    · rwa [BeginsRange, peek_append_of_skip hz]
    · have happ : skip verbose (z ++ ')' :: t) = skip verbose z ++ ')' :: t := by
        rw [hz]
        exact skipFrom_append hz _
      rw [happ]
      exact classItem?_paren hhigh t

theorem not_mem_of_ofName? {name : String} {c : AsciiClass} (h : AsciiClass.ofName? name = some c) :
    ')' ∉ name.toList := by
  unfold AsciiClass.ofName? at h
  split at h
  case h_15 => cases h
  all_goals decide

/-- Splits off the circumflex that negates a class. -/
def caret : List Char → Bool × List Char
  | '^' :: cs => (true, cs)
  | cs => (false, cs)

theorem caret_append (c : Char) (cs t : List Char) :
    caret (c :: (cs ++ t)) = ((caret (c :: cs)).1, (caret (c :: cs)).2 ++ t) := by
  by_cases hc : c = '^'
  · rw [hc]
    rfl
  · have hcaret (cs : List Char) : caret (c :: cs) = (false, c :: cs) := by
      rw [caret]
      exact fun cs' heq => hc (List.cons.inj heq).1
    rw [hcaret, hcaret, List.cons_append]

theorem asciiClass?_colon (cs : List Char) :
    asciiClass? (':' :: cs) = match (caret cs).2.dropWhile (· != ':') with
      | ':' :: ']' :: rest =>
        (AsciiClass.ofName? (String.ofList ((caret cs).2.takeWhile (· != ':')))).map fun c =>
          (.ascii c (caret cs).1, rest)
      | _ => none := rfl

theorem asciiClass?_of_ne {c : Char} (hc : c ≠ ':') (cs : List Char) :
    asciiClass? (c :: cs) = none := by
  rw [asciiClass?]
  exact fun cs' heq => hc (List.cons.inj heq).1

theorem asciiClass?_append {cs rest : List Char} {c : ClassSyntax}
    (h : asciiClass? cs = some (c, rest)) (t : List Char) :
    asciiClass? (cs ++ t) = some (c, rest ++ t) := by
  cases cs with
  | nil => cases h
  | cons d cs =>
    by_cases hd : d = ':'
    · subst hd
      cases cs with
      | nil => cases h
      | cons e cs =>
        rw [asciiClass?_colon] at h
        rw [List.cons_append, List.cons_append, asciiClass?_colon, caret_append]
        split at h
        · next rest' hdrop =>
          rw [dropWhile_append_of_cons hdrop, takeWhile_append_of_cons hdrop]
          obtain ⟨name, hname, he⟩ := Option.map_eq_some_iff.1 h
          obtain ⟨rfl, rfl⟩ := Prod.mk.inj he
          simp [hname]
        · cases h
    · rw [asciiClass?_of_ne hd] at h
      cases h

/-- A parenthesis is in no name of a class, so no class begins where none was. -/
theorem asciiClass?_paren {cs : List Char} (h : asciiClass? cs = none) (t : List Char) :
    asciiClass? (cs ++ ')' :: t) = none := by
  have hparen {name : List Char} (hname : ')' ∈ name) :
      AsciiClass.ofName? (String.ofList name) = none := by
    cases hc : AsciiClass.ofName? (String.ofList name) with
    | none => rfl
    | some c => exact absurd (String.toList_ofList ▸ hname) (not_mem_of_ofName? hc)
  cases cs with
  | nil => exact asciiClass?_of_ne (by decide) t
  | cons d cs =>
    by_cases hd : d = ':'
    · subst hd
      cases cs with
      | nil =>
        rw [List.cons_append, List.nil_append, asciiClass?_colon]
        have hcaret : caret (')' :: t) = (false, ')' :: t) := rfl
        rw [hcaret, hparen (by simp)]
        split <;> rfl
      | cons e cs =>
        rw [asciiClass?_colon] at h
        rw [List.cons_append, List.cons_append, asciiClass?_colon, caret_append]
        simp only
        -- Without another colon, the parenthesis would have to be in the name.
        cases hdrop : (caret (e :: cs)).2.dropWhile (· != ':') with
        | nil =>
          rw [hparen (by simp [List.takeWhile_append_of_pos (List.dropWhile_eq_nil_iff.1 hdrop)])]
          split <;> rfl
        | cons x rest =>
          rw [dropWhile_append_of_cons hdrop, takeWhile_append_of_cons hdrop]
          rw [hdrop] at h
          split
          · next rest' heq =>
            obtain ⟨hx, heq'⟩ := List.cons.inj heq
            cases rest with
            | nil => cases heq'
            | cons y rest =>
              obtain ⟨hy, -⟩ := List.cons.inj heq'
              rw [hx, hy] at h
              simpa using h
          · rfl
    · rw [List.cons_append, asciiClass?_of_ne hd]

theorem openBracket_of_span {verbose : Bool} {cs hyphens rest : List Char}
    (h : span verbose (· == '-') (caret (skip verbose cs)).2 = (hyphens, rest)) (r : ClassReading) :
    openBracket verbose r cs =
      let items := List.replicate hyphens.length (ClassSyntax.char ⟨'-', false⟩)
      let r : ClassReading := ⟨.bracket (caret (skip verbose cs)).1 r.items :: r.frames, items⟩
      if hyphens = [] ∧ rest.head? = some ']' then (r.push (.char ⟨']', false⟩), rest.tail)
      else (r, rest) := by
  have hleading : leadingHyphens verbose (caret (skip verbose cs)).2 = (hyphens.length, rest) := by
    rw [leadingHyphens, h]
  rw [openBracket]
  split
  next negated start heq =>
    have hcaret : caret (skip verbose cs) = (negated, start) := heq
    rw [hcaret] at hleading ⊢
    simp only [hleading]
    split
    · next hlength =>
      rw [if_pos ⟨List.length_eq_zero_iff.1 hlength, rfl⟩]
      rfl
    · next hne =>
      rw [if_neg]
      rintro ⟨rfl, hhead⟩
      obtain ⟨tail, htail⟩ := List.head?_eq_some_iff.1 hhead
      exact hne tail rfl htail

theorem openBracket_paren {verbose : Bool} {r r' : ClassReading} {cs rest : List Char} {c : Char}
    (h : openBracket verbose r cs = (r', c :: rest)) (t : List Char) :
    openBracket verbose r (cs ++ ')' :: t) = (r', c :: (rest ++ ')' :: t)) := by
  cases hspan : span verbose (· == '-') (caret (skip verbose cs)).2 with
  | mk hyphens rest' =>
    rw [openBracket_of_span hspan] at h
    rcases skip_cases verbose cs with ⟨d, cs', hskip, happ⟩ | ⟨hskip, -⟩
    · have hcaret := caret_append d cs' (')' :: t)
      rw [← happ, ← hskip] at hcaret
      cases rest' with
      | nil => simp at h
      | cons e rest' =>
        have hspan' : span verbose (· == '-') (caret (skip verbose (cs ++ ')' :: t))).2 =
            (hyphens, e :: (rest' ++ ')' :: t)) := by
          rw [hcaret]
          exact span_append hspan _
        rw [openBracket_of_span hspan', hcaret]
        simp only at h ⊢
        by_cases hbracket : hyphens = [] ∧ e = ']'
        · obtain ⟨rfl, rfl⟩ := hbracket
          obtain ⟨rfl, rfl⟩ := Prod.mk.inj h
          rfl
        · rw [if_neg (by simpa using hbracket)] at h ⊢
          obtain ⟨rfl, heq⟩ := Prod.mk.inj h
          obtain ⟨rfl, rfl⟩ := List.cons.inj heq
          rfl
    · rw [hskip] at hspan
      obtain ⟨rfl, rfl⟩ : [] = hyphens ∧ [] = rest' := by
        simpa [caret, span, spanFrom] using hspan
      simp at h

namespace Reader

/-- A character of a class that is no bracket and no operator begins a range. -/
theorem inside_of_ne {r : Reader} {c : ClassReading} {d : Char} {cs : List Char} (hopen : d ≠ '[')
    (hclose : d ≠ ']') (hop : d ∈ ['&', '-', '~'] → cs.head? ≠ some d) :
    r.inside c (d :: cs) =
      (classRange? r.verbose (d :: cs)).map fun i => (r.continueClass (c.push i.1), i.2) := by
  rw [inside]
  · exact List.cons_ne_nil d cs
  · exact fun rest heq => hopen (List.cons.inj heq).1
  · exact fun rest heq => hclose (List.cons.inj heq).1
  all_goals
    intro rest heq
    obtain ⟨rfl, rfl⟩ := List.cons.inj heq
    exact hop (by decide) rfl

theorem inside_paren {r r' : Reader} {c : ClassReading} {cs rest : List Char}
    (h : r.inside c cs = some (r', rest)) (hend : rest = [] → r'.inClass = none) (t : List Char) :
    r.inside c (cs ++ ')' :: t) = some (r', rest ++ ')' :: t) := by
  -- A class that goes on is not at the end of the text.
  have hcons {c' : ClassReading} {rest' : List Char}
      (h : some (r.continueClass c', rest') = some (r', rest)) : ∃ e rest'', rest' = e :: rest'' := by
    obtain ⟨rfl, rfl⟩ := Prod.mk.inj (Option.some.inj h)
    refine List.exists_cons_of_ne_nil fun hnil => ?_
    cases hend hnil
  cases cs with
  | nil => cases h
  | cons d cs =>
    by_cases hopen : d = '['
    · subst hopen
      simp only [inside, List.cons_append] at h ⊢
      cases hascii : asciiClass? cs with
      | some item =>
        rw [hascii] at h
        rw [asciiClass?_append hascii]
        obtain ⟨rfl, rfl⟩ := Prod.mk.inj (Option.some.inj h)
        rfl
      | none =>
        rw [hascii] at h
        rw [asciiClass?_paren hascii]
        cases hbracket : openBracket r.verbose c cs with
        | mk c' rest' =>
          -- A bracket that has just been opened is not at the end of the text either.
          simp only [hbracket] at h
          obtain ⟨e, rest'', rfl⟩ := hcons h
          simp only [openBracket_paren hbracket]
          obtain ⟨rfl, rfl⟩ := Prod.mk.inj (Option.some.inj h)
          rfl
    · by_cases hclose : d = ']'
      · subst hclose
        simp only [inside, List.cons_append] at h ⊢
        obtain ⟨r'', hr, heq⟩ := Option.map_eq_some_iff.1 h
        obtain ⟨rfl, rfl⟩ := Prod.mk.inj heq
        rw [hr, Option.map_some]
      · by_cases hop : d ∈ ['&', '-', '~'] ∧ cs.head? = some d
        · obtain ⟨hd, hhead⟩ := hop
          obtain ⟨cs, rfl⟩ := List.head?_eq_some_iff.1 hhead
          simp only [List.mem_cons, List.not_mem_nil, or_false] at hd
          rcases hd with rfl | rfl | rfl
          all_goals
            obtain ⟨rfl, rfl⟩ := Prod.mk.inj (Option.some.inj h)
            rfl
        · rw [inside_of_ne hopen hclose fun hd hhead => hop ⟨hd, hhead⟩] at h
          rw [List.cons_append, inside_of_ne hopen hclose]
          · obtain ⟨⟨item, rest'⟩, hrange, heq⟩ := Option.map_eq_some_iff.1 h
            obtain ⟨e, rest'', rfl⟩ := hcons (congrArg some heq)
            obtain ⟨rfl, rfl⟩ := Prod.mk.inj heq
            rw [← List.cons_append, classRange?_paren hrange]
            rfl
          · -- An operator is written twice, and a parenthesis is none.
            intro hd hhead
            cases cs with
            | nil =>
              obtain rfl : ')' = d := by simpa using hhead
              revert hd
              decide
            | cons e cs => exact hop ⟨hd, hhead⟩

end Reader

/-! ### Outside of classes -/

/-- What a lexeme outside of classes does. -/
inductive Lexeme where
  | enter (o : Opening)
  | close
  | bar
  | bracket (c : ClassReading)
  | part (e : Syntax)
  | repeated (count : Count) (lazy : Bool)
deriving Repr

/-- The lexeme that a text begins with, outside of classes. -/
def lexeme? (verbose : Bool) : List Char → Option (Lexeme × List Char)
  | [] => none
  | c :: cs =>
    match c with
    | '(' => (opening? verbose cs).map fun o => (.enter o.1, o.2)
    | ')' => some (.close, cs)
    | '|' => some (.bar, cs)
    | '[' => some (.bracket (openBracket verbose ⟨[], []⟩ cs).1, (openBracket verbose ⟨[], []⟩ cs).2)
    | '\\' => (escape? verbose cs).map fun e => (.part e.1.toSyntax, e.2)
    | '.' => some (.part .dot, cs)
    | '^' => some (.part (.assertion .lineStart), cs)
    | '$' => some (.part (.assertion .lineEnd), cs)
    | c =>
      if c == '?' || c == '*' || c == '+' || c == '\x7b' then
        (operator? verbose (c :: cs)).map fun o => (.repeated o.1 o.2.1, o.2.2)
      else some (.part (.char ⟨c, false⟩), cs)

/-- A lexeme that is read to its end is read in the same way before a closing parenthesis. -/
theorem lexeme?_paren {verbose : Bool} {cs rest : List Char} {l : Lexeme}
    (h : lexeme? verbose cs = some (l, rest)) (hend : ∀ c, l = .bracket c → rest ≠ []) :
    (∀ t, lexeme? verbose (cs ++ ')' :: t) = some (l, rest ++ ')' :: t)) ∨
      rest = [] ∧ ∀ t, '\n' ∉ t → lexeme? verbose (cs ++ ')' :: t) = some (l, []) := by
  cases cs with
  | nil => cases h
  | cons d cs =>
    simp only [List.cons_append, lexeme?] at h ⊢
    split at h
    case h_1 => exact (stable_opening? verbose).map Lexeme.enter h
    case h_4 =>
      obtain ⟨rfl, hrest⟩ := Prod.mk.inj (Option.some.inj h)
      obtain ⟨e, rest', rfl⟩ := List.exists_cons_of_ne_nil (hend _ rfl)
      refine .inl fun t => ?_
      rw [openBracket_paren (Prod.ext rfl hrest)]
      rfl
    case h_5 => exact (stable_escape? verbose).map (fun e => Lexeme.part e.toSyntax) h
    case h_9 =>
      split at h
      · next hop =>
        simp only [hop, if_true]
        obtain ⟨⟨count, lazy, rest'⟩, ho, heq⟩ := Option.map_eq_some_iff.1 h
        obtain ⟨rfl, rfl⟩ := Prod.mk.inj heq
        refine (operator?_paren ho).imp (fun hparen t => ?_) fun hopen => ⟨hopen.1, fun t ht => ?_⟩
        · simp only [← List.cons_append, hparen t, Option.map_some]
        · simp only [← List.cons_append, hopen.2 t ht, Option.map_some]
      · next hop =>
        simp only [hop]
        exact paren_of_eq h
    all_goals exact paren_of_eq h

namespace Reader

/-- What has been read after a lexeme. -/
def take (r : Reader) : Lexeme → Option Reader
  | .enter (.group kind) => r.openGroup kind
  | .enter (.flags changes) =>
    some { r.push (.flags changes) with verbose := changes.setting .verbose r.verbose }
  | .close => r.closeGroup
  | .bar => some r.nextBranch
  | .bracket c => some { r with inClass := some c }
  | .part e => some (r.push e)
  | .repeated count lazy => r.repeatLast count lazy

theorem outside_eq (r : Reader) (cs : List Char) :
    r.outside cs = (lexeme? r.verbose cs).bind fun l => (r.take l.1).map fun r => (r, l.2) := by
  cases cs with
  | nil => rfl
  | cons d cs =>
    simp only [lexeme?]
    split
    case h_1 =>
      rw [outside]
      cases h : opening? r.verbose cs with
      | none => rfl
      | some o =>
        obtain ⟨o, rest⟩ := o
        cases o with
        | group kind => cases hk : r.openGroup kind <;> simp [take, hk]
        | flags changes => rfl
    case h_5 =>
      rw [outside]
      cases escape? r.verbose cs <;> rfl
    case h_9 =>
      rw [outside]
      · split
        · next hop =>
          cases h : operator? r.verbose (d :: cs) with
          | none => simp
          | some o => cases hk : r.repeatLast o.1 o.2.1 <;> simp [take, hk]
        · rfl
      all_goals assumption
    all_goals rfl

/-- A lexeme is read in the same way before a closing parenthesis, unless a comment is open after
it. -/
theorem step_paren {r r' : Reader} {cs rest : List Char} (h : r.step cs = some (r', rest))
    (hend : rest = [] → r'.inClass = none) :
    (∀ t, r.step (cs ++ ')' :: t) = some (r', rest ++ ')' :: t)) ∨
      rest = [] ∧ ∀ t, '\n' ∉ t → r.step (cs ++ ')' :: t) = some (r', []) := by
  simp only [step] at h ⊢
  cases hclass : r.inClass with
  | some c =>
    simp only [hclass] at h ⊢
    exact .inl (inside_paren h hend)
  | none =>
    simp only [hclass, outside_eq] at h ⊢
    obtain ⟨⟨l, rest'⟩, hl, hr⟩ := Option.bind_eq_some_iff.1 h
    obtain ⟨r'', htake, heq⟩ := Option.map_eq_some_iff.1 hr
    obtain ⟨rfl, rfl⟩ := Prod.mk.inj heq
    have hbracket : ∀ c, l = .bracket c → rest' ≠ [] := by
      rintro c rfl hrest
      obtain rfl := Option.some.inj htake
      cases hend hrest
    refine (lexeme?_paren hl hbracket).imp (fun hparen t => ?_) fun hopen => ⟨hopen.1, fun t ht => ?_⟩
    · simp only [hparen t, Option.bind_some, htake, Option.map_some]
    · simp only [hopen.2 t ht, Option.bind_some, htake, Option.map_some]

end Reader

end Regex

end RoutePatterns
