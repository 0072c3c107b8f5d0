import RoutePatterns.Proofs.Table.Built
import RoutePatterns.Session.Basic

/-!
# What a session asks its cache for

A step other than a clear changes the cache only by its requests: one for a pattern that is got, and one
for every route of a table that was read, whether the table is accepted or not (`Session.requests`). They
are made one after the other and recorded in the metrics (`Session.step_of_ne_clear`), so what holds after
every request and every clear holds after every run (`Session.run_induction`).

The first fact about whole runs is that the cache is transparent: in every state that a session reaches,
and after every further request, it answers as the compiler does (`Session.cache_transparent`).
-/

namespace RoutePatterns

namespace Session

variable {s : Session} {t : Step} {steps : List Step}

/-- The patterns that a step asks the cache for, in order. -/
def requests (s : Session) : Step → List Pattern
  | .get p | .getClone p => [p]
  | .parseTable text => patternsOf (parseConfig text)
  | .loadTable | .reload => patternsOf (RoutePatterns.loadConfig s.content)
  | _ => []

/-- What the requests of a step come to. -/
def accesses (s : Session) (t : Step) : List Access := (s.cache.getAll (s.requests t)).1

/-- The patterns that a run asks the cache for, in order. -/
def requestsIn (s : Session) : List Step → List Pattern
  | [] => []
  | t :: steps => s.requests t ++ (s.step t).1.requestsIn steps

/-- What the requests of a run come to. -/
def accessesIn (s : Session) : List Step → List Access
  | [] => []
  | t :: steps => s.accesses t ++ (s.step t).1.accessesIn steps

/-! ### One step -/

@[simp] theorem replaceCurrent_cache (s : Session) (load : TableLoad) :
    (s.replaceCurrent s.handle load).1.cache = load.cache := by
  rw [replaceCurrent]
  split <;> exact CacheStore.read_write_self ..

@[simp] theorem replaceCurrent_metrics (s : Session) (h : CacheHandle) (load : TableLoad) :
    (s.replaceCurrent h load).1.metrics = s.metrics.recordAll load.accesses := by
  rw [replaceCurrent]
  split <;> rfl

@[simp] theorem replaceWatched_cache (s : Session) (load : TableLoad) :
    (s.replaceWatched s.handle load).1.cache = load.cache := by
  rw [replaceWatched]
  split <;> exact CacheStore.read_write_self ..

@[simp] theorem replaceWatched_metrics (s : Session) (h : CacheHandle) (load : TableLoad) :
    (s.replaceWatched h load).1.metrics = s.metrics.recordAll load.accesses := by
  rw [replaceWatched]
  split <;> rfl

theorem replaceCurrent_buildTable (s : Session) (config : Except LoadError Config) :
    (s.replaceCurrent s.handle (buildTable config s.cache)).1.cache = (s.cache.getAll (patternsOf config)).2 ∧
      (s.replaceCurrent s.handle (buildTable config s.cache)).1.metrics =
        s.metrics.recordAll (s.cache.getAll (patternsOf config)).1 := by
  rw [replaceCurrent_cache, replaceCurrent_metrics, buildTable_cache, buildTable_accesses]
  exact ⟨rfl, rfl⟩

theorem replaceWatched_buildTable (s : Session) (config : Except LoadError Config) :
    (s.replaceWatched s.handle (buildTable config s.cache)).1.cache = (s.cache.getAll (patternsOf config)).2 ∧
      (s.replaceWatched s.handle (buildTable config s.cache)).1.metrics =
        s.metrics.recordAll (s.cache.getAll (patternsOf config)).1 := by
  rw [replaceWatched_cache, replaceWatched_metrics, buildTable_cache, buildTable_accesses]
  exact ⟨rfl, rfl⟩

/-- **What a step does to the cache and to the metrics**, if it does not clear the cache. -/
theorem step_of_ne_clear (h : t ≠ .clear) :
    (s.step t).1.cache = (s.cache.getAll (s.requests t)).2 ∧
      (s.step t).1.metrics = s.metrics.recordAll (s.accesses t) := by
  -- Steps that get a pattern or load a table make requests, all others leave the cache and the metrics alone.
  cases t with
  | clear => exact absurd rfl h
  | get p | getClone p => exact ⟨s.cache_get p, rfl⟩
  | parseTable text => exact replaceCurrent_buildTable s (parseConfig text)
  | loadTable => exact replaceCurrent_buildTable s (RoutePatterns.loadConfig s.content)
  | reload => exact replaceWatched_buildTable s (RoutePatterns.loadConfig s.content)
  | loadConfig =>
    rw [step_loadConfig]
    split <;> exact ⟨rfl, rfl⟩
  | generate name params =>
    rw [step_generate, generate]
    split <;> exact ⟨rfl, rfl⟩
  | write bytes => exact ⟨rfl, rfl⟩
  | remove => exact ⟨rfl, rfl⟩
  | find name => exact ⟨rfl, rfl⟩
  | active => exact ⟨rfl, rfl⟩

/-! ### A run -/

@[simp] theorem run_nil (s : Session) : s.run [] = s := rfl

@[simp] theorem run_cons (s : Session) (t : Step) (steps : List Step) :
    s.run (t :: steps) = (s.step t).1.run steps := rfl

theorem run_append (s : Session) (steps later : List Step) :
    s.run (steps ++ later) = (s.run steps).run later := List.foldl_append

/-- What one request keeps, several requests keep. -/
theorem getAll_induction {P : Cache → Metrics → Prop}
    (hget : ∀ c m p, P c m → P (c.getOrCompile p).2 (m.record (c.getOrCompile p).1)) {c : Cache} {m : Metrics}
    (h : P c m) (ps : List Pattern) : P (c.getAll ps).2 (m.recordAll (c.getAll ps).1) := by
  induction ps generalizing c m with
  | nil => exact h
  | cons p ps ih => exact ih (hget c m p h)

/-- **What every request and every clear keep, a run keeps.** -/
theorem run_induction {P : Cache → Metrics → Prop}
    (hget : ∀ c m p, P c m → P (c.getOrCompile p).2 (m.record (c.getOrCompile p).1))
    (hclear : ∀ c m, P c m → P c.clear m.recordClear) (h : P s.cache s.metrics) (steps : List Step) :
    P (s.run steps).cache (s.run steps).metrics := by
  induction steps generalizing s with
  | nil => exact h
  | cons t steps ih =>
    apply ih
    by_cases ht : t = .clear
    · subst ht
      have hcleared := hclear _ _ h
      rwa [← cache_step_clear] at hcleared
    · obtain ⟨hcache, hmetrics⟩ := step_of_ne_clear ht
      rw [hcache, hmetrics]
      exact getAll_induction hget h _

/-- A property of the cache that the storing of new artifacts and the clear keep holds after a run. -/
theorem run_of_lasting {P : Cache → Prop} (hP : Cache.Lasting P) (hclear : ∀ c, P c → P c.clear)
    (h : P s.cache) (steps : List Step) : P (s.run steps).cache := by
  refine run_induction (P := fun c _ => P c) ?_ ?_ h steps
  · intro c _ p hc
    exact hP.getOrCompile hc p
  · intro c _ hc
    exact hclear c hc

theorem step_of_lasting {P : Cache → Prop} (hP : Cache.Lasting P) (ht : t ≠ .clear) (h : P s.cache) :
    P (s.step t).1.cache := by
  rw [(step_of_ne_clear ht).1]
  exact hP.getAll h _

/-! ### Transparency -/

theorem sound_start : start.cache.Sound := by
  rw [cache_start]
  exact Cache.sound_empty

theorem sound_run (steps : List Step) : (start.run steps).cache.Sound :=
  run_of_lasting Cache.lasting_sound (fun c _ => Cache.sound_clear c) sound_start steps

theorem sound_step (h : s.cache.Sound) (t : Step) : (s.step t).1.cache.Sound :=
  run_of_lasting Cache.lasting_sound (fun c _ => Cache.sound_clear c) h [t]

theorem forall₂_getAll {c : Cache} (h : c.Sound) (ps : List Pattern) :
    List.Forall₂ (fun p access => access.result.map Artifact.route = compile p) ps (c.getAll ps).1 := by
  induction ps generalizing c with
  | nil => exact .nil
  | cons p ps ih => exact .cons (h.route_eq p) (ih (Cache.lasting_sound.getOrCompile h p))

theorem forall₂_accessesIn (h : s.cache.Sound) (steps : List Step) :
    List.Forall₂ (fun p access => access.result.map Artifact.route = compile p) (s.requestsIn steps)
      (s.accessesIn steps) := by
  induction steps generalizing s with
  | nil => exact .nil
  | cons t steps ih => exact List.rel_append (forall₂_getAll h _) (ih (sound_step h t))

/-- **The cache cannot be told from compiling every time anew.** After any run, and after any of the further
requests that a step makes, the cache is transparent; and every request of the run was answered with the
route that its pattern is compiled to, or with the reason why there is none. -/
theorem cache_transparent (steps : List Step) :
    (∀ ps : List Pattern, ((start.run steps).cache.getAll ps).2.Transparent) ∧
      List.Forall₂ (fun p access => access.result.map Artifact.route = compile p)
        (start.requestsIn steps) (start.accessesIn steps) := by
  constructor
  · intro ps
    exact (Cache.lasting_sound.getAll (sound_run steps) ps).transparent
  · exact forall₂_accessesIn sound_start steps

end Session

end RoutePatterns
