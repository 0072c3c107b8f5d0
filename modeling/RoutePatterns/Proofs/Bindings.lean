import Mathlib.Data.List.Nodup
import Mathlib.Data.List.Sort
import RoutePatterns.Bindings

/-!
# Bindings and look-ups

A name that is not in a list of values is not found in it (`lookup_eq_none_iff_not_mem`), and where no name comes
twice, the values are those that are found (`lookup_eq_some_iff_mem`). Bindings are settled by their look-ups
(`Bindings.ext_get?`), so they are the bindings of their own entries (`Bindings.ofList_entries`). The order in which
names are bound does not matter where no name comes twice (`Bindings.ofList_of_perm`), nor for two names that differ
(`Bindings.ofList_swap`).
-/

namespace RoutePatterns

variable {values values' : List (String × String)} {name text : String}

/-! ### Look-up in lists of values -/

theorem lookup_eq_none_iff_not_mem {α β : Type} [BEq α] [LawfulBEq α] {l : List (α × β)} {a : α} :
    l.lookup a = none ↔ a ∉ l.map Prod.fst := by
  rw [List.lookup_eq_none_iff, List.mem_map]
  constructor
  · rintro h ⟨e, he, rfl⟩
    simpa using h e he
  · intro h e he
    rw [bne_iff_ne]
    rintro rfl
    exact h ⟨e, he, rfl⟩

theorem mem_of_lookup_eq_some {α β : Type} [BEq α] [LawfulBEq α] {l : List (α × β)} {a : α} {b : β}
    (h : l.lookup a = some b) : (a, b) ∈ l := by
  obtain ⟨before, after, rfl, -⟩ := List.lookup_eq_some_iff.1 h
  simp

/-- Where no name comes twice, the values of a list are those that are found in it. -/
theorem lookup_eq_some_iff_mem (h : (values.map Prod.fst).Nodup) :
    values.lookup name = some text ↔ (name, text) ∈ values := by
  induction values with
  | nil => simp
  | cons value values ih =>
    obtain ⟨hnotMem, hnodup⟩ := List.nodup_cons.1 h
    rw [List.lookup_cons, List.mem_cons]
    cases hname : name == value.1 with
    | false =>
      have hne : (name, text) ≠ value := by
        rintro rfl
        simp at hname
      rw [ih hnodup]
      simp [hne]
    | true =>
      obtain rfl := beq_iff_eq.1 hname
      have hrest : (value.1, text) ∉ values := fun hmem =>
        hnotMem (List.mem_map.2 ⟨_, hmem, rfl⟩)
      simp [hrest, Prod.ext_iff, eq_comm]

/-- Where no name comes twice, the order of the values does not matter. -/
theorem lookup_of_perm (hperm : values.Perm values') (h : (values.map Prod.fst).Nodup) (name : String) :
    values.lookup name = values'.lookup name := by
  have h' : (values'.map Prod.fst).Nodup := (hperm.map Prod.fst).nodup_iff.1 h
  refine Option.ext fun text => ?_
  rw [lookup_eq_some_iff_mem h, lookup_eq_some_iff_mem h', hperm.mem_iff]

theorem lookup_reverse (h : (values.map Prod.fst).Nodup) (name : String) :
    values.reverse.lookup name = values.lookup name :=
  (lookup_of_perm (List.reverse_perm values).symm h name).symm

namespace Bindings

variable {b b' : Bindings}

/-- The last binding of a name counts. -/
theorem get?_ofList (values : List (String × String)) (name : String) :
    (ofList values).get? name = values.reverse.lookup name := by
  obtain ⟨reversed, rfl⟩ : ∃ reversed, values = List.reverse reversed :=
    ⟨values.reverse, values.reverse_reverse.symm⟩
  rw [List.reverse_reverse]
  induction reversed with
  | nil => rfl
  | cons value values ih =>
    rw [List.reverse_cons, ofList, List.foldl_append, List.foldl_cons, List.foldl_nil, get?_insert,
      List.lookup_cons]
    change (if value.1 = name then _ else (ofList values.reverse).get? name) = _
    rw [ih]
    by_cases hname : value.1 = name
    · simp [hname]
    · simp [hname, beq_eq_false_iff_ne.2 (Ne.symm hname)]

/-! ### Extensionality -/

theorem nodup_names (b : Bindings) : b.names.Nodup :=
  (List.pairwise_map.2 b.sorted).imp fun hlt => (String.ne_of_lt hlt)

theorem get?_eq_lookup (b : Bindings) (name : String) : b.get? name = b.entries.lookup name := by
  rw [get?]
  induction b.entries with
  | nil => rfl
  | cons e es ih =>
    rw [List.find?_cons, List.lookup_cons]
    by_cases h : e.1 = name
    · simp [h]
    · simpa only [beq_eq_false_iff_ne.2 h, beq_eq_false_iff_ne.2 (Ne.symm h)] using ih

/-- **Bindings that answer every look-up alike are equal.** -/
theorem ext_get? (h : ∀ name, b.get? name = b'.get? name) : b = b' := by
  have hmem : ∀ e, e ∈ b.entries ↔ e ∈ b'.entries := by
    intro e
    have hget := h e.1
    rw [get?_eq_lookup, get?_eq_lookup] at hget
    rw [← lookup_eq_some_iff_mem b.nodup_names, ← lookup_eq_some_iff_mem b'.nodup_names, hget]
  have hentries : b.entries = b'.entries := by
    have : Std.Irrefl fun e e' : String × String => e.1 < e'.1 := ⟨fun _ => String.lt_irrefl _⟩
    have : Std.Antisymm fun e e' : String × String => e.1 < e'.1 :=
      ⟨fun _ _ hlt hgt => absurd hgt (String.lt_asymm hlt)⟩
    exact b.sorted.eq_of_mem_iff b'.sorted hmem
  cases b
  cases b'
  simpa using hentries

/-- Bindings are the bindings of their entries. -/
theorem ofList_entries (b : Bindings) : ofList b.entries = b := by
  refine ext_get? fun name => ?_
  rw [get?_ofList, lookup_reverse b.nodup_names, get?_eq_lookup]

theorem ofList_of_perm (hperm : values.Perm values') (h : (values.map Prod.fst).Nodup) :
    ofList values = ofList values' := by
  have h' : (values'.map Prod.fst).Nodup := (hperm.map Prod.fst).nodup_iff.1 h
  refine ext_get? fun name => ?_
  rw [get?_ofList, get?_ofList, lookup_reverse h, lookup_reverse h', lookup_of_perm hperm h]

/-- Two names that differ can be bound in either order, whatever is bound before and after. -/
theorem ofList_swap {p q : String × String} (h : p.1 ≠ q.1) (before after : List (String × String)) :
    ofList (before ++ p :: q :: after) = ofList (before ++ q :: p :: after) := by
  refine ext_get? fun name => ?_
  have hpair : [q, p].lookup name = [p, q].lookup name := by
    refine lookup_of_perm (.swap p q []) ?_ name
    simpa [eq_comm] using h
  have hreverse (p q : String × String) :
      (before ++ p :: q :: after).reverse = after.reverse ++ [q, p] ++ before.reverse := by simp
  rw [get?_ofList, get?_ofList, hreverse, hreverse, List.lookup_append, List.lookup_append, List.lookup_append,
    List.lookup_append, hpair]

end Bindings

end RoutePatterns
