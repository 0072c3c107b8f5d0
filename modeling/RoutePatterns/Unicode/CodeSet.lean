/-!
# Sets of characters given by code point ranges

A `CodeSet` is a list of inclusive ranges of code points. The tables of the Unicode character
properties are written in this form, and `CodeSet.contains` reads them. Ranges may overlap and stand
in any order; `CodeSet.normalize` puts them in order, with a gap after each.
-/

namespace RoutePatterns

/-- A set of characters, given by inclusive ranges of code points. -/
abbrev CodeSet := List (Nat × Nat)

namespace CodeSet

/-- A code point lies in one of the ranges. -/
def hasCode (s : CodeSet) (n : Nat) : Bool := s.any fun r => Nat.ble r.1 n && Nat.ble n r.2

/-- A character lies in one of the ranges. -/
def contains (s : CodeSet) (c : Char) : Bool := s.hasCode c.toNat

/-- Puts a range in its place among the ranges of an ordered list, joined to those that it meets or
touches. -/
def insertRange (r : Nat × Nat) : CodeSet → CodeSet
  | [] => [r]
  | t :: rest =>
    if r.2 + 1 < t.1 then r :: t :: rest
    else if t.2 + 1 < r.1 then t :: insertRange r rest
    else insertRange (min r.1 t.1, max r.2 t.2) rest

/-- The same set with its ranges in order and none that meets or touches another. -/
def normalize (s : CodeSet) : CodeSet := s.foldr insertRange []

/-- The greatest code point. -/
def maxCode : Nat := 0x10FFFF

/-- The code points from `start` on that lie in no range of an ordered list. -/
def gapsFrom (start : Nat) : CodeSet → CodeSet
  | [] => if start ≤ maxCode then [(start, maxCode)] else []
  | r :: rest => (if start < r.1 then [(start, r.1 - 1)] else []) ++ gapsFrom (r.2 + 1) rest

/-- The code points outside of a set. -/
def complement (s : CodeSet) : CodeSet := gapsFrom 0 s.normalize

/-- The code points of both sets. -/
def intersection (s t : CodeSet) : CodeSet := (s.complement ++ t.complement).complement

/-- The code points of the first set that are not in the second one. -/
def difference (s t : CodeSet) : CodeSet := (s.complement ++ t).complement

@[simp] theorem hasCode_cons (r : Nat × Nat) (s : CodeSet) (n : Nat) :
    hasCode (r :: s) n = ((Nat.ble r.1 n && Nat.ble n r.2) || s.hasCode n) := rfl

@[simp] theorem hasCode_append (s t : CodeSet) (n : Nat) :
    hasCode (s ++ t) n = (s.hasCode n || t.hasCode n) := List.any_append

/-! ### Sets in order -/

/-- No range ends before it starts. -/
def Ordered (s : CodeSet) : Prop := ∀ r ∈ s, r.1 ≤ r.2

/-- The ranges stand in order, with a gap after each. -/
def Spaced (s : CodeSet) : Prop := s.Pairwise fun r t => r.2 + 1 < t.1

theorem Ordered.head {r : Nat × Nat} {s : CodeSet} (h : Ordered (r :: s)) : r.1 ≤ r.2 :=
  h r List.mem_cons_self

theorem Ordered.tail {r : Nat × Nat} {s : CodeSet} (h : Ordered (r :: s)) : s.Ordered :=
  fun t ht => h t (List.mem_cons_of_mem _ ht)

theorem Ordered.append {s t : CodeSet} (hs : s.Ordered) (ht : t.Ordered) : Ordered (s ++ t) :=
  List.forall_mem_append.2 ⟨hs, ht⟩

theorem ordered_insertRange {r : Nat × Nat} {s : CodeSet} (hr : r.1 ≤ r.2) (hs : s.Ordered) :
    (insertRange r s).Ordered := by
  induction s generalizing r with
  | nil => simpa [insertRange, Ordered] using hr
  | cons t rest ih =>
    have ht := hs.head
    rw [insertRange]
    split
    · exact List.forall_mem_cons.2 ⟨hr, hs⟩
    · split
      · exact List.forall_mem_cons.2 ⟨ht, ih hr hs.tail⟩
      · exact ih (by simp only; omega) hs.tail

/-- What lies below the range and the list lies below the list with the range. -/
theorem lt_of_mem_insertRange {b : Nat} {r u : Nat × Nat} {s : CodeSet} (hr : b < r.1)
    (hs : ∀ t ∈ s, b < t.1) (hu : u ∈ insertRange r s) : b < u.1 := by
  induction s generalizing r with
  | nil =>
    obtain rfl := List.mem_singleton.1 hu
    exact hr
  | cons t rest ih =>
    obtain ⟨ht, hrest⟩ := List.forall_mem_cons.1 hs
    rw [insertRange] at hu
    split at hu
    · obtain rfl | hu := List.mem_cons.1 hu
      · exact hr
      · exact hs u hu
    · split at hu
      · obtain rfl | hu := List.mem_cons.1 hu
        · exact ht
        · exact ih hr hrest hu
      · exact ih (by simp only; omega) hrest hu

theorem spaced_insertRange {r : Nat × Nat} {s : CodeSet} (hs : s.Ordered) (hd : s.Spaced) :
    (insertRange r s).Spaced := by
  induction s generalizing r with
  | nil => exact List.pairwise_singleton ..
  | cons t rest ih =>
    obtain ⟨hafter, hrest⟩ := List.pairwise_cons.1 hd
    have ht := hs.head
    rw [insertRange]
    split
    next hbefore =>
      refine List.pairwise_cons.2 ⟨List.forall_mem_cons.2 ⟨hbefore, fun u hu => ?_⟩, hd⟩
      have := hafter u hu
      omega
    next =>
      split
      next hlater =>
        exact List.pairwise_cons.2
          ⟨fun u hu => lt_of_mem_insertRange hlater hafter hu, ih hs.tail hrest⟩
      next => exact ih hs.tail hrest

theorem hasCode_insertRange {r : Nat × Nat} {s : CodeSet} (hr : r.1 ≤ r.2) (hs : s.Ordered)
    (n : Nat) :
    (insertRange r s).hasCode n = ((Nat.ble r.1 n && Nat.ble n r.2) || s.hasCode n) := by
  induction s generalizing r with
  | nil => rfl
  | cons t rest ih =>
    have ht := hs.head
    rw [insertRange]
    split
    · rfl
    · split
      · have := ih hr hs.tail
        simp only [hasCode, List.any_cons] at this ⊢
        rw [this, Bool.or_left_comm]
      · rw [ih (r := (min r.1 t.1, max r.2 t.2)) (by simp only; omega) hs.tail]
        simp only [hasCode, List.any_cons, ← Bool.or_assoc]
        congr 1
        rw [Bool.eq_iff_iff]
        simp only [Bool.and_eq_true, Bool.or_eq_true, Nat.ble_eq]
        omega

theorem ordered_normalize {s : CodeSet} (hs : s.Ordered) : s.normalize.Ordered := by
  induction s with
  | nil => exact hs
  | cons r s ih => exact ordered_insertRange hs.head (ih hs.tail)

theorem spaced_normalize {s : CodeSet} (hs : s.Ordered) : s.normalize.Spaced := by
  induction s with
  | nil => exact .nil
  | cons r s ih => exact spaced_insertRange (ordered_normalize hs.tail) (ih hs.tail)

/-- Putting ranges in order does not change the set. -/
theorem hasCode_normalize {s : CodeSet} (hs : s.Ordered) (n : Nat) :
    s.normalize.hasCode n = s.hasCode n := by
  induction s with
  | nil => rfl
  | cons r s ih =>
    exact (hasCode_insertRange hs.head (ordered_normalize hs.tail) n).trans
      (congrArg _ (ih hs.tail))

/-! ### Complements -/

theorem ordered_gapsFrom (start : Nat) (s : CodeSet) : (gapsFrom start s).Ordered := by
  induction s generalizing start with
  | nil =>
    rw [gapsFrom]
    split
    next h => simpa [Ordered] using h
    next => simp [Ordered]
  | cons r rest ih =>
    refine Ordered.append ?_ (ih _)
    split
    next h => simpa [Ordered] using Nat.le_sub_one_of_lt h
    next => simp [Ordered]

theorem ble_eq_false {m n : Nat} : Nat.ble m n = false ↔ n < m := by
  rw [← Bool.not_eq_true, Nat.ble_eq, Nat.not_le]

/-- The gaps of a list in order hold what its ranges do not. -/
theorem hasCode_gapsFrom {start n : Nat} {s : CodeSet} (hs : s.Ordered) (hd : s.Spaced)
    (hfrom : ∀ r ∈ s, start ≤ r.1) (hn : n ≤ maxCode) :
    (gapsFrom start s).hasCode n = (Nat.ble start n && !s.hasCode n) := by
  induction s generalizing start with
  | nil =>
    rw [gapsFrom, Bool.eq_iff_iff]
    split <;> simp [hasCode] <;> omega
  | cons r rest ih =>
    obtain ⟨hafter, hrest⟩ := List.pairwise_cons.1 hd
    have hr := hs.head
    have hstart := hfrom r List.mem_cons_self
    have hrec := ih hs.tail hrest fun t ht => Nat.le_of_lt (hafter t ht)
    rw [gapsFrom, hasCode_append, hrec, hasCode_cons]
    -- what lies before the end of `r` lies in none of the later ranges
    cases hlater : hasCode rest n with
    | false =>
      rw [Bool.eq_iff_iff]
      split <;> simp [hasCode, ble_eq_false] <;> omega
    | true =>
      obtain ⟨t, ht, hin⟩ := List.any_eq_true.1 hlater
      have := hafter t ht
      rw [Bool.and_eq_true, Nat.ble_eq] at hin
      split <;> simp [hasCode, ble_eq_false]
      omega

/-- A code point is in the complement of a set just when it is not in the set. -/
theorem hasCode_complement {n : Nat} {s : CodeSet} (hs : s.Ordered) (hn : n ≤ maxCode) :
    s.complement.hasCode n = !s.hasCode n := by
  rw [complement, hasCode_gapsFrom (ordered_normalize hs) (spaced_normalize hs)
    (fun _ _ => Nat.zero_le _) hn, hasCode_normalize hs]
  simp

theorem ordered_complement (s : CodeSet) : s.complement.Ordered := ordered_gapsFrom 0 _

/-! ### Characters -/

theorem toNat_le_maxCode (c : Char) : c.toNat ≤ maxCode := by
  obtain h | ⟨-, h⟩ := c.valid
  · exact Nat.le_trans (Nat.le_of_lt h) (by decide)
  · exact Nat.le_of_lt_succ h

@[simp] theorem contains_nil (c : Char) : contains [] c = false := rfl

@[simp] theorem contains_cons (r : Nat × Nat) (s : CodeSet) (c : Char) :
    contains (r :: s) c = ((Nat.ble r.1 c.toNat && Nat.ble c.toNat r.2) || s.contains c) := rfl

@[simp] theorem contains_append (s t : CodeSet) (c : Char) :
    contains (s ++ t) c = (s.contains c || t.contains c) := by
  simp [contains, hasCode, List.any_append]

theorem contains_complement {s : CodeSet} (hs : s.Ordered) (c : Char) :
    s.complement.contains c = !s.contains c :=
  hasCode_complement hs (toNat_le_maxCode c)

theorem contains_intersection {s t : CodeSet} (hs : s.Ordered) (ht : t.Ordered) (c : Char) :
    (s.intersection t).contains c = (s.contains c && t.contains c) := by
  rw [intersection, contains_complement ((ordered_complement s).append (ordered_complement t)),
    contains_append, contains_complement hs, contains_complement ht]
  simp

theorem contains_difference {s t : CodeSet} (hs : s.Ordered) (ht : t.Ordered) (c : Char) :
    (s.difference t).contains c = (s.contains c && !t.contains c) := by
  rw [difference, contains_complement ((ordered_complement s).append ht), contains_append,
    contains_complement hs]
  simp

end CodeSet

end RoutePatterns
