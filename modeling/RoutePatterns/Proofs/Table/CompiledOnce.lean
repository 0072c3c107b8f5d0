import RoutePatterns.Proofs.Cache.Growth
import RoutePatterns.Proofs.Session.Accounting
import RoutePatterns.Proofs.Table.Problems

/-!
# Each pattern is compiled once

A validation asks the cache for every pattern of a configuration, whether the configuration is accepted or not.
Of the requests, those that compile a pattern are as many as there are fresh patterns, and those that are
rejected are counted by what the compiler says of each route; the others find an artifact. So the counters
(`Metrics.apply_recordAll`) and the cache (`Cache.grownBy_getAll`) afterwards are known from the configuration
and the cache before (`CompiledOnce`), and a second validation has nothing left to compile.
-/

namespace RoutePatterns

/-- The patterns of the routes, in order. -/
def Config.patterns (config : Config) : List Pattern := config.routes.map RouteEntry.pattern

/-- The metrics after a validation, if `m` were those before. -/
def Validation.recordedIn (v : Validation) (m : Metrics) : Metrics := m.recordAll v.accesses

variable {accesses : List Access} {entries : List RouteEntry} {c : Cache}

/-! ### Requests and routes -/

/-- The requests that are rejected are those of the routes whose patterns are refused. -/
theorem countP_error?_eq (h : List.Forall₂ RouteEntry.Answers entries accesses)
    (q : Option PatternError → Bool) :
    (accesses.countP fun access => q access.error?) = entries.countP fun e => q e.error? := by
  induction h with
  | nil => rfl
  | cons hhead _ ih => rw [List.countP_cons, List.countP_cons, ih, hhead.error?_eq]

theorem countP_isCompiled_getAll (c : Cache) (ps : List Pattern) :
    (c.getAll ps).1.countP Access.isCompiled = (c.fresh ps).length := by
  have hgrown := (c.grownBy_getAll ps).size_eq
  have hsize := c.size_getAll ps
  omega

/-! ### Validation -/

theorem count_compilations_validate (config : Config) (c : Cache) (m : Metrics) :
    ((validate config c).recordedIn m).count "route_compilations_total" =
      m.count "route_compilations_total" + (c.fresh config.patterns).length := by
  rw [Metrics.count_compilations, Metrics.count_compilations, Validation.recordedIn,
    Metrics.apply_recordAll Metrics.compilations Metrics.compilations_record, ← countP_isCompiled_getAll]
  rfl

theorem count_errorCounter_validate (h : c.Sound) (config : Config) (m : Metrics) (e : PatternError) :
    ((validate config c).recordedIn m).count (Metrics.errorCounter e.label) =
      m.count (Metrics.errorCounter e.label) +
        config.routes.countP fun x => x.error?.any (·.label == e.label) := by
  rw [Metrics.count_errorCounter, Metrics.count_errorCounter, Validation.recordedIn,
    Metrics.apply_recordAll (·.errorsLike e) (Metrics.errorsLike_record e),
    countP_error?_eq (forall₂_answers h config) fun error? => error?.any (·.label == e.label)]

theorem errorCount_validate (h : c.Sound) (config : Config) (m : Metrics) :
    ((validate config c).recordedIn m).errorCount =
      m.errorCount + config.routes.countP fun e => e.error?.isSome := by
  rw [Metrics.errorCount_eq, Metrics.errorCount_eq, Validation.recordedIn,
    Metrics.apply_recordAll Metrics.errors Metrics.errors_record,
    countP_error?_eq (forall₂_answers h config) fun error? => error?.isSome]

/-- Every request raises one counter, so the hits are what the other counters leave. -/
theorem count_hits_validate (h : c.Sound) (config : Config) (m : Metrics) :
    ((validate config c).recordedIn m).count "route_cache_hits_total" + (c.fresh config.patterns).length +
        (config.routes.countP fun e => e.error?.isSome) =
      m.count "route_cache_hits_total" + config.routes.length := by
  have hrequests : ((validate config c).recordedIn m).requests = m.requests + config.routes.length := by
    rw [Validation.recordedIn, Metrics.requests_recordAll, (forall₂_answers h config).length_eq]
  have hcompilations := count_compilations_validate config c m
  have herrors := errorCount_validate h config m
  rw [← Metrics.count_compilations_hits_errors, ← Metrics.count_compilations_hits_errors] at hrequests
  omega

/-- A second validation finds all patterns that compile. -/
theorem isCompiled_validate_again (config : Config) (c : Cache) :
    ∀ access ∈ (validate config (validate config c).cache).accesses, access.isCompiled = false := by
  have hcount := countP_isCompiled_getAll (c.getAll config.patterns).2 config.patterns
  rw [Cache.fresh_getAll, List.length_nil, List.countP_eq_zero] at hcount
  exact fun access haccess => Bool.eq_false_iff.2 (hcount access haccess)

/-- What a validation does to a cache and to the metrics of a program that uses it. -/
structure CompiledOnce (config : Config) (c : Cache) (m : Metrics) : Prop where
  /-- The entries are those of before, and after them one for each fresh pattern. -/
  grownBy : c.GrownBy (validate config c).cache (c.fresh config.patterns)
  /-- No pattern has two entries. -/
  nodup : (validate config c).cache.patterns.Nodup
  /-- The patterns are those of before and those of the configuration that compile. -/
  mem_patterns : ∀ p, p ∈ (validate config c).cache.patterns ↔
    p ∈ c.patterns ∨ p ∈ config.patterns ∧ ∃ r, compile p = .ok r
  /-- Every fresh pattern is compiled once. -/
  compilations : ((validate config c).recordedIn m).count "route_compilations_total" =
    m.count "route_compilations_total" + (c.fresh config.patterns).length
  /-- A pattern that is refused is counted for every route that has it, by what is wrong with it. -/
  errors : ∀ label ∈ PatternError.labels,
    ((validate config c).recordedIn m).count (Metrics.errorCounter label) =
      m.count (Metrics.errorCounter label) +
        config.routes.countP fun e => e.error?.any (·.label == label)
  /-- All routes with such a pattern are counted. -/
  errorCount : ((validate config c).recordedIn m).errorCount =
    m.errorCount + config.routes.countP fun e => e.error?.isSome
  /-- The other requests find an artifact. -/
  hits : ((validate config c).recordedIn m).count "route_cache_hits_total" + (c.fresh config.patterns).length +
      (config.routes.countP fun e => e.error?.isSome) =
    m.count "route_cache_hits_total" + config.routes.length
  /-- When the configuration is validated again, nothing is compiled. -/
  again_compilations : ∀ access ∈ (validate config (validate config c).cache).accesses,
    access.isCompiled = false
  /-- The cache is left as it is then. -/
  again_cache : (validate config (validate config c).cache).cache = (validate config c).cache

/-- **Each pattern of a configuration is compiled at most once**, whether the configuration is accepted or not:
the cache of any session grows by the patterns that compile and were not in it, and the counters grow by the
number of these, of the routes that are refused and of the routes that are left. -/
theorem validate_compiledOnce (steps : List Step) (config : Config) (m : Metrics) :
    CompiledOnce config (Session.start.run steps).cache m where
  grownBy := Cache.grownBy_getAll _ config.patterns
  nodup := (Cache.lasting_sound.getAll (Session.sound_run steps) config.patterns).patterns_nodup
  mem_patterns _ := Cache.mem_patterns_getAll
  compilations := count_compilations_validate config _ m
  errors label hlabel := by
    obtain ⟨e, rfl⟩ := PatternError.exists_label_eq hlabel
    exact count_errorCounter_validate (Session.sound_run steps) config m e
  errorCount := errorCount_validate (Session.sound_run steps) config m
  hits := count_hits_validate (Session.sound_run steps) config m
  again_compilations := isCompiled_validate_again config _
  again_cache := Cache.getAll_eq_self (Cache.fresh_getAll _ config.patterns)

/-- Two routes with a new pattern, one of them without a name, two with a refused one, and one with a pattern
that the cache holds. -/
def repeatingConfig : Config where
  routes := [{ name := "a", path := "/a" }, { name := "b", path := "/b" }, { name := "", path := "/b" },
    { name := "c", path := "/{1}" }, { name := "d", path := "/{1}" }]

/-- One pattern is compiled, two artifacts are found, and two routes are refused. -/
theorem validate_compiledOnce_repeating :
    let cache := (Session.start.run [.get { path := "/a" }]).cache
    let metrics := (validate repeatingConfig cache).recordedIn {}
    metrics.count "route_compilations_total" = 1 ∧ metrics.count "route_cache_hits_total" = 2 ∧
      metrics.count (Metrics.errorCounter "invalid_name") = 2 ∧
      (validate repeatingConfig cache).cache.patterns = [{ path := "/a" }, { path := "/b" }] := by
  intro cache metrics
  have hfresh : cache.fresh repeatingConfig.patterns = [{ path := "/b" }] := by decide +kernel
  have hrefused : (repeatingConfig.routes.countP fun e => e.error?.isSome) = 2 := by decide +kernel
  have honce := validate_compiledOnce [.get { path := "/a" }] repeatingConfig {}
  refine ⟨?_, ?_, ?_, ?_⟩
  · rw [honce.compilations, hfresh]
    rfl
  · have hhits : metrics.count "route_cache_hits_total" + 1 + 2 = 5 := by
      have h := honce.hits
      rwa [hfresh, hrefused] at h
    omega
  · rw [honce.errors "invalid_name" (by decide)]
    decide +kernel
  · rw [honce.grownBy.patterns_eq, hfresh]
    rfl

end RoutePatterns
