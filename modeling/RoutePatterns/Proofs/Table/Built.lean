import Mathlib.Data.List.Forall2
import RoutePatterns.Proofs.Cache.Sound
import RoutePatterns.Table.Load

/-!
# The artifacts of a table

A configuration is accepted only if every request for a pattern of it gave an artifact
(`map_artifact?_of_validate`). The routes of the table have these artifacts, and the cache holds them when the
table is built (`find?_of_buildTable`).
-/

namespace RoutePatterns

variable {c : Cache} {config : Config} {artifacts : List Artifact} {built : Table}

/-- The patterns of a configuration, if there is one, in the order of its routes. -/
def patternsOf : Except LoadError Config → List Pattern
  | .ok config => config.routes.map RouteEntry.pattern
  | .error _ => []

theorem buildTable_accesses (config : Except LoadError Config) (c : Cache) :
    (buildTable config c).accesses = (c.getAll (patternsOf config)).1 := by
  cases config <;> rfl

theorem buildTable_cache (config : Except LoadError Config) (c : Cache) :
    (buildTable config c).cache = (c.getAll (patternsOf config)).2 := by
  cases config <;> rfl

/-- Requests that all gave artifacts leave these artifacts in the cache. -/
theorem Cache.forall₂_find?_getAll {ps : List Pattern}
    (h : (c.getAll ps).1.map Access.artifact? = artifacts.map some) :
    List.Forall₂ (fun p a => (c.getAll ps).2.find? p = some a) ps artifacts := by
  induction ps generalizing c artifacts with
  | nil =>
    obtain rfl : artifacts = [] := by simpa [Cache.getAll] using h
    exact .nil
  | cons p ps ih =>
    cases artifacts with
    | nil => simp [Cache.getAll] at h
    | cons a artifacts =>
      obtain ⟨hhead, htail⟩ := List.cons.inj h
      refine .cons ?_ (ih htail)
      exact (Cache.lasting_find? p a).getAll (Cache.find?_getOrCompile hhead) ps

theorem nameErrors_eq_nil_iff {index : Nat} {seen : List String} {name : String} :
    nameErrors index seen name = [] ↔ Unicode.isBlankText name = false ∧ name ∉ seen := by
  cases hblank : Unicode.isBlankText name <;> simp [nameErrors, hblank]

theorem patternErrors_eq_nil_iff {name : String} {access : Access} :
    patternErrors name access = [] ↔ access.error? = none := by
  simp [patternErrors]

/-- **When there are no problems**: no name is blank or comes twice, and no pattern is rejected. -/
theorem errorsFrom_eq_nil_iff {routes : List (RouteEntry × Access)} {index : Nat} {seen : List String} :
    errorsFrom index seen routes = [] ↔
      (∀ x ∈ routes, Unicode.isBlankText x.1.name = false ∧ x.1.name ∉ seen) ∧
        (routes.map fun x => x.1.name).Nodup ∧ ∀ x ∈ routes, x.2.error? = none := by
  induction routes generalizing index seen with
  | nil => simp [errorsFrom]
  | cons x routes ih =>
    rw [errorsFrom, List.append_eq_nil_iff, List.append_eq_nil_iff, nameErrors_eq_nil_iff,
      patternErrors_eq_nil_iff, ih, List.map_cons, List.nodup_cons, List.forall_mem_cons,
      List.forall_mem_cons]
    constructor
    · rintro ⟨⟨hname, herror⟩, hnames, hnodup, herrors⟩
      rw [hname.1, if_neg Bool.false_ne_true] at hnames
      refine ⟨⟨hname, fun y hy => ?_⟩, ⟨fun hmem => ?_, hnodup⟩, herror, herrors⟩
      · exact ⟨(hnames y hy).1, fun hmem => (hnames y hy).2 (List.mem_cons_of_mem _ hmem)⟩
      -- The names of the others were checked against this one.
      · obtain ⟨y, hy, heq⟩ := List.mem_map.1 hmem
        exact (hnames y hy).2 (heq ▸ List.mem_cons_self)
    · rintro ⟨⟨hname, hnames⟩, ⟨hnew, hnodup⟩, herror, herrors⟩
      refine ⟨⟨hname, herror⟩, fun y hy => ⟨(hnames y hy).1, fun hmem => ?_⟩, hnodup, herrors⟩
      rw [hname.1, if_neg Bool.false_ne_true] at hmem
      rcases List.mem_cons.1 hmem with heq | hmem
      · exact hnew (List.mem_map.2 ⟨y, hy, heq⟩)
      · exact (hnames y hy).2 hmem

theorem map_artifact?_eq_filterMap {accesses : List Access} (h : ∀ x ∈ accesses, x.error? = none) :
    accesses.map Access.artifact? = (accesses.filterMap Access.artifact?).map some := by
  induction accesses with
  | nil => rfl
  | cons x accesses ih =>
    obtain ⟨hhead, htail⟩ := List.forall_mem_cons.1 h
    cases x with
    | rejected e => simp [Access.error?] at hhead
    | hit a => simpa [Access.artifact?] using ih htail
    | compiled a size => simpa [Access.artifact?] using ih htail

/-- A request is made for every route. -/
theorem map_fst_zip_getAll (routes : List RouteEntry) (c : Cache) :
    (routes.zip (c.getAll (routes.map RouteEntry.pattern)).1).map Prod.fst = routes :=
  List.map_fst_zip (by simp [Cache.length_getAll])

theorem map_snd_zip_getAll (routes : List RouteEntry) (c : Cache) :
    (routes.zip (c.getAll (routes.map RouteEntry.pattern)).1).map Prod.snd =
      (c.getAll (routes.map RouteEntry.pattern)).1 :=
  List.map_snd_zip (by simp [Cache.length_getAll])

/-- An accepted configuration has no problems. -/
theorem errorsFrom_of_validate (h : (validate config c).result = .ok artifacts) :
    errorsFrom 0 [] (config.routes.zip (c.getAll (config.routes.map RouteEntry.pattern)).1) = [] := by
  simp only [validate] at h
  split at h
  · next hempty => exact List.isEmpty_iff.1 hempty
  · exact absurd h (by simp)

/-- **An accepted configuration has an artifact for each of its routes.** -/
theorem map_artifact?_of_validate (h : (validate config c).result = .ok artifacts) :
    (c.getAll (config.routes.map RouteEntry.pattern)).1.map Access.artifact? = artifacts.map some := by
  obtain ⟨-, -, hall⟩ := errorsFrom_eq_nil_iff.1 (errorsFrom_of_validate h)
  simp only [validate, errorsFrom_of_validate h, List.isEmpty_nil, if_true] at h
  obtain rfl := Except.ok.inj h
  apply map_artifact?_eq_filterMap
  intro x hx
  rw [← map_snd_zip_getAll] at hx
  obtain ⟨y, hy, rfl⟩ := List.mem_map.1 hx
  exact hall y hy

/-- A table that is built has the routes of an accepted configuration. -/
theorem Table.eq_ofEntries_of_ofConfig (h : (Table.ofConfig config c).result = .ok built) :
    ∃ artifacts, (validate config c).result = .ok artifacts ∧
      built = Table.ofEntries config.routes artifacts := by
  cases hresult : (validate config c).result with
  | error errors => exact absurd h (by simp [Table.ofConfig, hresult, Except.map])
  | ok artifacts =>
    refine ⟨artifacts, rfl, ?_⟩
    simpa [Table.ofConfig, hresult, Except.map] using h.symm

theorem find?_of_mem_ofEntries {entries : List RouteEntry}
    (h : List.Forall₂ (fun p a => c.find? p = some a) (entries.map RouteEntry.pattern) artifacts) :
    ∀ r ∈ (Table.ofEntries entries artifacts).routes, c.find? r.pattern = some r.artifact := by
  induction entries generalizing artifacts with
  | nil => simp [Table.ofEntries]
  | cons e entries ih =>
    cases h with
    | cons hhead htail => exact List.forall_mem_cons.2 ⟨hhead, ih htail⟩

/-- **A route of a table has the artifact that its pattern has in the cache**, when the table was built. -/
theorem find?_of_ofConfig (h : (Table.ofConfig config c).result = .ok built) :
    ∀ r ∈ built.routes,
      (c.getAll (config.routes.map RouteEntry.pattern)).2.find? r.pattern = some r.artifact := by
  obtain ⟨artifacts, hresult, rfl⟩ := Table.eq_ofEntries_of_ofConfig h
  exact find?_of_mem_ofEntries (Cache.forall₂_find?_getAll (map_artifact?_of_validate hresult))

/-- A table is built of the configuration, if there is one. -/
theorem buildTable_result_eq_ok_iff {config : Except LoadError Config} :
    (buildTable config c).result = .ok built ↔
      ∃ config', config = .ok config' ∧ (Table.ofConfig config' c).result = .ok built := by
  cases config with
  | error e => simp [buildTable]
  | ok config => cases hresult : (Table.ofConfig config c).result <;> simp [buildTable, hresult, Except.mapError]

theorem find?_of_buildTable {config : Except LoadError Config}
    (h : (buildTable config c).result = .ok built) :
    ∀ r ∈ built.routes, (buildTable config c).cache.find? r.pattern = some r.artifact := by
  obtain ⟨config', rfl, hconfig⟩ := buildTable_result_eq_ok_iff.1 h
  rw [buildTable_cache]
  exact find?_of_ofConfig hconfig

end RoutePatterns
