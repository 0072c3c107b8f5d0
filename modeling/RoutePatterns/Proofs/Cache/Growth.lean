import RoutePatterns.Proofs.Cache.Sound

/-!
# How the cache grows

Requests add entries after those that are there (`Cache.GrownBy`), one for each pattern that compiles and has
no artifact yet, however often it is asked for (`Cache.fresh`). A request that compiles a pattern takes it from
the fresh ones of the requests that follow (`fresh_cons_of_compiled`); by induction over the requests the new
entries are those of the fresh patterns (`grownBy_getAll`). Where no pattern is fresh, nothing changes.
-/

namespace RoutePatterns

namespace Cache

/-- The pattern compiles and has no artifact. -/
def isFresh (c : Cache) (p : Pattern) : Bool := (compile p).isOk && (c.find? p).isNone

/-- The patterns of a list that compile and have no artifact, each one once. -/
def fresh (c : Cache) (ps : List Pattern) : List Pattern := (ps.filter c.isFresh).eraseDups

/-- The cache `c'` has the entries of `c`, followed by those of further patterns, which were compiled. -/
def GrownBy (c c' : Cache) (ps : List Pattern) : Prop :=
  ∃ added, c'.entries = c.entries ++ added ∧ added.map Prod.fst = ps ∧
    ∀ x ∈ added, compile x.1 = .ok x.2.route

variable {c c' c'' : Cache} {p : Pattern} {ps ps' : List Pattern} {a : Artifact} {r : Route}
  {e : PatternError}

/-! ### Fresh patterns -/

theorem isFresh_iff : c.isFresh p = true ↔ (∃ r, compile p = .ok r) ∧ p ∉ c.patterns := by
  rw [isFresh, Bool.and_eq_true, Option.isNone_iff_eq_none, find?_eq_none_iff]
  cases compile p <;> simp [Except.isOk, Except.toBool]

theorem mem_fresh_iff :
    p ∈ c.fresh ps ↔ p ∈ ps ∧ (∃ r, compile p = .ok r) ∧ p ∉ c.patterns := by
  rw [fresh, List.mem_eraseDups, List.mem_filter, isFresh_iff]

theorem fresh_cons_of_hit (h : c.find? p = some a) : c.fresh (p :: ps) = c.fresh ps := by
  rw [fresh, List.filter_cons_of_neg (by simp [isFresh, h]), fresh]

theorem fresh_cons_of_rejected (h : compile p = .error e) : c.fresh (p :: ps) = c.fresh ps := by
  rw [fresh, List.filter_cons_of_neg (by simp [isFresh_iff, h]), fresh]

/-- A pattern that is compiled is fresh, and it is not among the later ones. -/
theorem fresh_cons_of_compiled (hfind : c.find? p = none) (hcompile : compile p = .ok r) :
    c.fresh (p :: ps) = p :: (c.store p r).fresh ps := by
  have hstore : (c.store p r).isFresh = fun q => !(q == p) && c.isFresh q := by
    funext q
    by_cases hq : q = p
    · subst hq
      simp [isFresh, find?_store_self hfind]
    · rw [isFresh, find?_store_of_ne hfind hq, beq_eq_false_iff_ne.2 hq, Bool.not_false, Bool.true_and,
        isFresh]
  have hfresh : c.isFresh p = true := isFresh_iff.2 ⟨⟨r, hcompile⟩, find?_eq_none_iff.1 hfind⟩
  rw [fresh, List.filter_cons_of_pos hfresh, List.eraseDups_cons, List.filter_filter, fresh, hstore]

/-! ### Growth -/

namespace GrownBy

theorem refl (c : Cache) : GrownBy c c [] := ⟨[], by simp⟩

theorem store (hcompile : compile p = .ok r) : GrownBy c (c.store p r) [p] :=
  ⟨[(p, ⟨c.nextSerial, r⟩)], rfl, rfl, by simpa using hcompile⟩

theorem trans (h : GrownBy c c' ps) (h' : GrownBy c' c'' ps') : GrownBy c c'' (ps ++ ps') := by
  obtain ⟨added, hentries, hfst, hcompile⟩ := h
  obtain ⟨added', hentries', hfst', hcompile'⟩ := h'
  refine ⟨added ++ added', ?_, ?_, ?_⟩
  · rw [hentries', hentries, List.append_assoc]
  · rw [List.map_append, hfst, hfst']
  · exact List.forall_mem_append.2 ⟨hcompile, hcompile'⟩

theorem patterns_eq (h : GrownBy c c' ps) : c'.patterns = c.patterns ++ ps := by
  obtain ⟨added, hentries, rfl, -⟩ := h
  rw [patterns, hentries, List.map_append, patterns]

/-- An artifact that a pattern has is not replaced. -/
theorem find?_eq_some (h : GrownBy c c' ps) (hfind : c.find? p = some a) : c'.find? p = some a := by
  obtain ⟨added, hentries, -, -⟩ := h
  rw [find?] at hfind ⊢
  rw [hentries, List.lookup_append, hfind]
  rfl

theorem size_eq (h : GrownBy c c' ps) : c'.size = c.size + ps.length := by
  obtain ⟨added, hentries, rfl, -⟩ := h
  rw [size, hentries, List.length_append, List.length_map, size]

end GrownBy

/-- **Requests add the entries of the fresh patterns.** -/
theorem grownBy_getAll (c : Cache) (ps : List Pattern) : GrownBy c (c.getAll ps).2 (c.fresh ps) := by
  induction ps generalizing c with
  | nil => exact .refl c
  | cons p ps ih =>
    have hrest := ih (c.getOrCompile p).2
    show GrownBy c ((c.getOrCompile p).2.getAll ps).2 (c.fresh (p :: ps))
    obtain ⟨a, hfind, heq⟩ | ⟨e, -, hcompile, heq⟩ | ⟨r, hfind, hcompile, heq⟩ := c.getOrCompile_cases p
    · rw [heq] at hrest ⊢
      rwa [fresh_cons_of_hit hfind]
    · rw [heq] at hrest ⊢
      rwa [fresh_cons_of_rejected hcompile]
    · rw [heq] at hrest ⊢
      rw [fresh_cons_of_compiled hfind hcompile]
      exact (GrownBy.store hcompile).trans hrest

/-- After requests, the patterns that have an artifact are those of before and those that compile. -/
theorem mem_patterns_getAll :
    p ∈ (c.getAll ps).2.patterns ↔ p ∈ c.patterns ∨ p ∈ ps ∧ ∃ r, compile p = .ok r := by
  rw [(c.grownBy_getAll ps).patterns_eq, List.mem_append, mem_fresh_iff]
  by_cases hp : p ∈ c.patterns <;> simp [hp]

/-- Requests without a fresh pattern leave the cache as it is. -/
theorem getAll_eq_self (h : c.fresh ps = []) : (c.getAll ps).2 = c := by
  induction ps with
  | nil => rfl
  | cons p ps ih =>
    show ((c.getOrCompile p).2.getAll ps).2 = c
    obtain ⟨a, hfind, heq⟩ | ⟨e, -, hcompile, heq⟩ | ⟨r, hfind, hcompile, heq⟩ := c.getOrCompile_cases p
    · rw [heq]
      exact ih (fresh_cons_of_hit hfind ▸ h)
    · rw [heq]
      exact ih (fresh_cons_of_rejected hcompile ▸ h)
    · rw [fresh_cons_of_compiled hfind hcompile] at h
      cases h

/-- After requests, none of their patterns is fresh any more. -/
theorem fresh_getAll (c : Cache) (ps : List Pattern) : (c.getAll ps).2.fresh ps = [] := by
  refine List.eq_nil_iff_forall_not_mem.2 fun p hp => ?_
  obtain ⟨hmem, hcompile, hnew⟩ := mem_fresh_iff.1 hp
  exact hnew (mem_patterns_getAll.2 (.inr ⟨hmem, hcompile⟩))

end Cache

end RoutePatterns
