/-!
# Bindings of names to texts

A `Bindings` is a finite map from names to texts: constraint overrides by variable name, or
parameter values by variable name. Its entries are kept in the order of their names, each name
once, so two maps that answer every look-up alike are equal. A later binding of a name replaces an
earlier one (`get?_insert`).
-/

namespace RoutePatterns

/-- A look-up of texts by name. -/
abbrev Lookup := String → Option String

/-- A finite map from names to texts. -/
structure Bindings where
  /-- The bound names with their texts. -/
  entries : List (String × String) := []
  /-- The names are in strictly increasing order. -/
  sorted : entries.Pairwise (fun a b => a.1 < b.1) := by simp
deriving DecidableEq

namespace Bindings

/-- No bindings. -/
def empty : Bindings := { entries := [] }

instance : Inhabited Bindings := ⟨empty⟩

/-- The text bound to a name. -/
def get? (b : Bindings) (name : String) : Option String :=
  (b.entries.find? fun e => e.1 == name).map Prod.snd

/-- The bound names, in order. -/
def names (b : Bindings) : List String := b.entries.map Prod.fst

/-- Puts an entry at its place in an ordered list. -/
def insertEntry (name text : String) : List (String × String) → List (String × String)
  | [] => [(name, text)]
  | e :: es =>
    if name < e.1 then (name, text) :: e :: es
    else if name = e.1 then (name, text) :: es
    else e :: insertEntry name text es

theorem mem_insertEntry {name text : String} {es : List (String × String)} {e : String × String}
    (h : e ∈ insertEntry name text es) : e = (name, text) ∨ e ∈ es := by
  induction es with
  | nil => simpa [insertEntry] using h
  | cons e' es ih =>
    rw [insertEntry] at h
    split at h
    · simpa using h
    · split at h
      · exact (List.mem_cons.1 h).imp_right (List.mem_cons_of_mem _)
      · rcases List.mem_cons.1 h with h | h
        · exact .inr (by simp [h])
        · exact (ih h).imp_right (List.mem_cons_of_mem _)

theorem sorted_insertEntry {name text : String} {es : List (String × String)}
    (h : es.Pairwise fun a b => a.1 < b.1) :
    (insertEntry name text es).Pairwise fun a b => a.1 < b.1 := by
  induction es with
  | nil => simp [insertEntry]
  | cons e es ih =>
    obtain ⟨hhead, htail⟩ := List.pairwise_cons.1 h
    rw [insertEntry]
    split
    · next hlt =>
      refine List.pairwise_cons.2 ⟨fun a ha => ?_, h⟩
      rcases List.mem_cons.1 ha with rfl | ha
      · exact hlt
      · exact String.lt_trans hlt (hhead a ha)
    · next hge =>
      split
      · next heq => exact List.pairwise_cons.2 ⟨fun a ha => heq ▸ hhead a ha, htail⟩
      · next hne =>
        refine List.pairwise_cons.2 ⟨fun a ha => ?_, ih htail⟩
        rcases mem_insertEntry ha with rfl | ha
        · refine String.not_le.1 fun hle => hne ?_
          exact String.le_antisymm hle (String.not_lt.1 hge)
        · exact hhead a ha

/-- Binds a name to a text, in place of what the name was bound to. -/
def insert (b : Bindings) (name text : String) : Bindings :=
  ⟨insertEntry name text b.entries, sorted_insertEntry b.sorted⟩

/-- The bindings of a list of pairs, of which the last one with a name counts. -/
def ofList (pairs : List (String × String)) : Bindings :=
  pairs.foldl (fun b p => b.insert p.1 p.2) empty

@[simp] theorem get?_empty (name : String) : empty.get? name = none := rfl

theorem find?_insertEntry (name text other : String) (es : List (String × String)) :
    ((insertEntry name text es).find? fun e => e.1 == other).map Prod.snd =
      if name = other then some text else (es.find? fun e => e.1 == other).map Prod.snd := by
  induction es with
  | nil => by_cases h : name = other <;> simp [insertEntry, h]
  | cons e es ih =>
    rw [insertEntry]
    split
    · by_cases h : name = other <;> simp [List.find?_cons, h]
    · split
      · next heq => by_cases h : name = other <;> simp [h, ← heq]
      · next hne =>
        by_cases he : e.1 = other
        · have h : name ≠ other := fun h => hne (h.trans he.symm)
          simp [he, h]
        · simpa [he] using ih

/-- After a name is bound, its text is the new one and every other name keeps its own. -/
theorem get?_insert (b : Bindings) (name text other : String) :
    (b.insert name text).get? other = if name = other then some text else b.get? other :=
  find?_insertEntry name text other b.entries

end Bindings

end RoutePatterns
