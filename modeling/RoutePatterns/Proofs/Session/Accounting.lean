import Mathlib.Data.List.DropRight
import RoutePatterns.Proofs.Session.Requests

/-!
# What the metrics of a session add up to

Every request to the cache raises one counter by one, and the size that is recorded is that of the cache
whenever it changes. So after every step the published counters add up to the number of requests that were
made, and the published size is the number of entries, which is the number of patterns that were compiled
since the cache was cleared last (`Session.metrics_accounted`). What is published under a name is read off the
metrics by `Metrics.reading?_names`.
-/

namespace RoutePatterns

/-- The pattern was compiled. -/
def Access.isCompiled : Access → Bool
  | compiled .. => true
  | _ => false

/-- The labels by which rejected patterns are counted. -/
def PatternError.labels : List String := ["invalid_name", "duplicate_name", "name_too_long"]

/-- There are no other labels. -/
theorem PatternError.label_mem_labels (e : PatternError) : e.label ∈ labels := by
  cases e <;> simp [label, labels]

theorem PatternError.exists_label_eq {label : String} (h : label ∈ labels) :
    ∃ e : PatternError, e.label = label := by
  simp only [labels, List.mem_cons, List.not_mem_nil, or_false] at h
  rcases h with rfl | rfl | rfl
  · exact ⟨.leadingDigit "" "", rfl⟩
  · exact ⟨.repeatedName "" "", rfl⟩
  · exact ⟨.longName "" "", rfl⟩

/-- The step clears the cache. -/
def Step.isClear : Step → Bool
  | clear => true
  | _ => false

namespace Metrics

variable {m : Metrics}

/-- What is published under a name. -/
def reading? (m : Metrics) (name : String) : Option Nat := m.readings.lookup name

/-- The value of a counter, which is not published before it is raised. -/
def count (m : Metrics) (name : String) : Nat := (m.reading? name).getD 0

/-- How many rejected patterns are published under all labels together. -/
def errorCount (m : Metrics) : Nat :=
  PatternError.labels.foldl (fun n label => n + m.count (errorCounter label)) 0

/-- How many patterns were rejected for the same reason. -/
def errorsLike (m : Metrics) : PatternError → Nat
  | .leadingDigit .. => m.leadingDigits
  | .repeatedName .. => m.repeatedNames
  | .longName .. => m.longNames

/-- How many requests were recorded. -/
def requests (m : Metrics) : Nat := m.compilations + m.hits + m.errors

/-! ### Published names -/

/-- What is published of a counter. -/
def raised (n : Nat) : Option Nat := if n = 0 then none else some n

theorem getD_raised (n : Nat) : (raised n).getD 0 = n := by
  rw [raised]
  split
  · next h => exact h.symm
  · rfl

theorem counter_eq (name : String) (n : Nat) :
    counter name n = (raised n).toList.map fun n => (name, n) := by
  rw [counter, raised]
  split <;> rfl

theorem lookup_single (name other : String) (o : Option Nat) :
    (o.toList.map fun n => (name, n)).lookup other = if other = name then o else none := by
  cases o with
  | none => simp
  | some n =>
    by_cases h : other = name
    · simp [h]
    · have hbeq : (other == name) = false := by simpa using h
      simp [h, List.lookup_cons, hbeq]

/-- The names under which something is published. -/
def names : List String :=
  ["route_compilations_total", "route_cache_hits_total", "route_cache_size", errorCounter "invalid_name",
    errorCounter "duplicate_name", errorCounter "name_too_long"]

theorem nodup_names : names.Nodup := by decide +kernel

/-- **What is published under each name.** -/
theorem reading?_names (m : Metrics) :
    names.map m.reading? = [raised m.compilations, raised m.hits, m.cacheSize, raised m.leadingDigits,
      raised m.repeatedNames, raised m.longNames] := by
  have hreading : ∀ name, m.reading? name =
      ((((((if name = "route_compilations_total" then raised m.compilations else none).or
        (if name = "route_cache_hits_total" then raised m.hits else none)).or
        (if name = "route_cache_size" then m.cacheSize else none)).or
        (if name = errorCounter "invalid_name" then raised m.leadingDigits else none)).or
        (if name = errorCounter "duplicate_name" then raised m.repeatedNames else none)).or
        (if name = errorCounter "name_too_long" then raised m.longNames else none)) := by
    intro name
    simp only [reading?, readings, PatternError.label, List.lookup_append, counter_eq, lookup_single]
  -- A name that is looked up is none of the others.
  have hnames := nodup_names
  simp only [names, List.nodup_cons, List.mem_cons, List.not_mem_nil, not_or] at hnames
  simp only [names, List.map_cons, List.map_nil, List.cons.injEq, and_true]
  grind

theorem reading?_size (m : Metrics) : m.reading? "route_cache_size" = m.cacheSize := by
  have h := reading?_names m
  simp only [names, List.map_cons, List.cons.injEq] at h
  exact h.2.2.1

theorem count_compilations (m : Metrics) : m.count "route_compilations_total" = m.compilations := by
  have h := reading?_names m
  simp only [names, List.map_cons, List.cons.injEq] at h
  rw [count, h.1, getD_raised]

theorem count_hits (m : Metrics) : m.count "route_cache_hits_total" = m.hits := by
  have h := reading?_names m
  simp only [names, List.map_cons, List.cons.injEq] at h
  rw [count, h.2.1, getD_raised]

theorem count_errorCounter (m : Metrics) (e : PatternError) :
    m.count (errorCounter e.label) = m.errorsLike e := by
  have h := reading?_names m
  simp only [names, List.map_cons, List.cons.injEq] at h
  cases e <;> simp [count, PatternError.label, errorsLike, h, getD_raised]

theorem errorCount_eq (m : Metrics) : m.errorCount = m.errors := by
  have h := reading?_names m
  simp only [names, List.map_cons, List.cons.injEq] at h
  simp [count, errorCount, PatternError.labels, errors, h, getD_raised]

theorem count_compilations_hits_errors (m : Metrics) :
    m.count "route_compilations_total" + m.count "route_cache_hits_total" + m.errorCount = m.requests := by
  rw [count_compilations, count_hits, errorCount_eq, requests]

/-! ### Requests -/

/-- A counter that some requests raise by one counts these requests. -/
theorem apply_recordAll (f : Metrics → Nat) {q : Access → Bool}
    (h : ∀ m access, f (m.record access) = f m + if q access then 1 else 0) (m : Metrics)
    (accesses : List Access) : f (m.recordAll accesses) = f m + accesses.countP q := by
  induction accesses generalizing m with
  | nil => rfl
  | cons access accesses ih =>
    have hrest := ih (m.record access)
    rw [h, Nat.add_assoc, Nat.add_comm (if q access then 1 else 0)] at hrest
    rw [List.countP_cons]
    exact hrest

theorem compilations_record (m : Metrics) (access : Access) :
    (m.record access).compilations = m.compilations + if access.isCompiled then 1 else 0 := by
  rcases access with a | ⟨a, size⟩ | ⟨e | e | e⟩ <;> rfl

theorem errors_record (m : Metrics) (access : Access) :
    (m.record access).errors = m.errors + if access.error?.isSome then 1 else 0 := by
  rcases access with a | ⟨a, size⟩ | ⟨e | e | e⟩ <;>
    simp [record, recordError, errors, Access.error?] <;> omega

/-- A rejected pattern is counted under its own label. -/
theorem errorsLike_record (e : PatternError) (m : Metrics) (access : Access) :
    (m.record access).errorsLike e =
      m.errorsLike e + if access.error?.any (·.label == e.label) then 1 else 0 := by
  cases e <;> rcases access with a | ⟨a, size⟩ | ⟨e | e | e⟩ <;>
    simp [errorsLike, record, recordError, Access.error?, PatternError.label]

theorem requests_record (m : Metrics) (access : Access) : (m.record access).requests = m.requests + 1 := by
  cases access with
  | hit a => simp only [record, requests, errors]; omega
  | compiled a size => simp only [record, requests, errors]; omega
  | rejected e => cases e <;> simp only [record, recordError, requests, errors] <;> omega

theorem requests_recordAll (m : Metrics) (accesses : List Access) :
    (m.recordAll accesses).requests = m.requests + accesses.length := by
  have h := apply_recordAll requests (q := fun _ => true) requests_record m accesses
  rwa [List.countP_true] at h

end Metrics

theorem Cache.size_getOrCompile (c : Cache) (p : Pattern) :
    (c.getOrCompile p).2.size = c.size + [(c.getOrCompile p).1].countP Access.isCompiled := by
  obtain ⟨a, -, heq⟩ | ⟨e, -, -, heq⟩ | ⟨r, -, -, heq⟩ := c.getOrCompile_cases p <;> rw [heq] <;>
    simp [Access.isCompiled, Cache.store, Cache.size]

theorem Cache.size_getAll (c : Cache) (ps : List Pattern) :
    (c.getAll ps).2.size = c.size + (c.getAll ps).1.countP Access.isCompiled := by
  induction ps generalizing c with
  | nil => rfl
  | cons p ps ih =>
    have hrest := ih (c.getOrCompile p).2
    rw [size_getOrCompile, Nat.add_assoc, ← List.countP_append] at hrest
    exact hrest

namespace Session

variable {s : Session} {t : Step} {steps : List Step}

/-! ### A run -/

/-- The steps up to the one that cleared the cache last; none if it was not cleared. -/
def untilClear (steps : List Step) : List Step := steps.rdropWhile fun t => !t.isClear

/-- The steps after the one that cleared the cache last; all if it was not cleared. -/
def sinceClear (steps : List Step) : List Step := steps.rtakeWhile fun t => !t.isClear

theorem requests_run (s : Session) (steps : List Step) :
    (s.run steps).metrics.requests = s.metrics.requests + (s.requestsIn steps).length := by
  induction steps generalizing s with
  | nil => rfl
  | cons t steps ih =>
    -- A clear makes no request and raises no counter.
    have hstep : (s.step t).1.metrics.requests = s.metrics.requests + (s.requests t).length := by
      by_cases hne : t = .clear
      · subst hne
        rfl
      · rw [(step_of_ne_clear hne).2, Metrics.requests_recordAll, accesses, Cache.length_getAll]
    rw [run_cons, ih, hstep, requestsIn, List.length_append, Nat.add_assoc]

/-- The size that is recorded is that of the cache, which is empty before it is recorded. -/
theorem getD_cacheSize_run (steps : List Step) :
    (start.run steps).metrics.cacheSize.getD 0 = (start.run steps).cache.size := by
  refine run_induction (P := fun c m => m.cacheSize.getD 0 = c.size) ?_ ?_ rfl steps
  · intro c m p h
    obtain ⟨a, -, heq⟩ | ⟨e, -, -, heq⟩ | ⟨r, -, -, heq⟩ := c.getOrCompile_cases p <;> rw [heq]
    · exact h
    · cases e <;> exact h
    · simp [Metrics.record, Cache.store, Cache.size]
  · intro c m _
    rfl

theorem size_run_of_not_isClear (s : Session) (h : ∀ t ∈ steps, (!t.isClear) = true) :
    (s.run steps).cache.size = s.cache.size + (s.accessesIn steps).countP Access.isCompiled := by
  induction steps generalizing s with
  | nil => rfl
  | cons t steps ih =>
    obtain ⟨ht, hsteps⟩ := List.forall_mem_cons.1 h
    have hne : t ≠ .clear := by
      rintro rfl
      exact absurd ht (by simp [Step.isClear])
    rw [run_cons, ih _ hsteps, (step_of_ne_clear hne).1, Cache.size_getAll, Nat.add_assoc,
      ← List.countP_append]
    rfl

theorem size_untilClear (steps : List Step) : (start.run (untilClear steps)).cache.size = 0 := by
  -- The steps that are left out come last, so the induction is from the end.
  induction steps using List.reverseRecOn with
  | nil => rfl
  | append_singleton steps t ih =>
    rw [untilClear, List.rdropWhile_concat]
    split
    · exact ih
    · next ht =>
      cases t <;> simp only [Step.isClear, Bool.not_false, Bool.not_true, not_true_eq_false] at ht
      rw [run_append, run_cons, run_nil, cache_step_clear]
      rfl

/-- **The cache has an entry for each pattern that was compiled since it was cleared last.** -/
theorem size_run (steps : List Step) :
    (start.run steps).cache.size =
      ((start.run (untilClear steps)).accessesIn (sinceClear steps)).countP Access.isCompiled := by
  have hsplit : untilClear steps ++ sinceClear steps = steps := List.rdropWhile_append_rtakeWhile
  have hkeeps : ∀ t ∈ sinceClear steps, (!t.isClear) = true := by
    intro t ht
    exact List.mem_rtakeWhile_imp (p := fun t : Step => !t.isClear) ht
  have hsince := size_run_of_not_isClear (start.run (untilClear steps)) hkeeps
  rw [← run_append, hsplit, size_untilClear, Nat.zero_add] at hsince
  exact hsince

/-- **The metrics account for every request of a run.** The size of the cache that is published is that of
the cache, which is empty as long as none is published, and it is the number of patterns that were compiled
since the cache was cleared last. The published counters add up to the number of requests: one for each
pattern that was got, and one for each route of a table that was read, accepted or not. -/
theorem metrics_accounted (steps : List Step) :
    (∀ n, (start.run steps).metrics.reading? "route_cache_size" = some n →
        n = (start.run steps).cache.size) ∧
      ((start.run steps).metrics.reading? "route_cache_size" = none → (start.run steps).cache.size = 0) ∧
      (start.run steps).cache.size =
        ((start.run (untilClear steps)).accessesIn (sinceClear steps)).countP Access.isCompiled ∧
      (start.run steps).metrics.count "route_compilations_total" +
          (start.run steps).metrics.count "route_cache_hits_total" + (start.run steps).metrics.errorCount =
        (start.requestsIn steps).length := by
  have hsize := getD_cacheSize_run steps
  refine ⟨?_, ?_, size_run steps, ?_⟩
  · intro n hn
    rw [← hsize, ← Metrics.reading?_size, hn]
    rfl
  · intro hnone
    rw [← hsize, ← Metrics.reading?_size, hnone]
    rfl
  · rw [Metrics.count_compilations_hits_errors, requests_run]
    exact Nat.zero_add _

end Session

end RoutePatterns
