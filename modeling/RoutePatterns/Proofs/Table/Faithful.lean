import RoutePatterns.Proofs.Table.Built

/-!
# Tables and their configurations

A table that is built through a sound cache is faithful to its configuration (`Table.faithful_of_ofConfig`): it
has one route for each route of the configuration, in the same order, with the name, the pattern and what the
pattern is compiled to. Since the validation refuses blank names and names that come twice
(`errorsFrom_eq_nil_iff`), a route is found under its own name and under no other.
-/

namespace RoutePatterns

variable {c : Cache} {config : Config} {built : Table}

/-- A route of a table is what a route of a configuration says; a missing host is an empty one. -/
structure NamedRoute.Faithful (r : NamedRoute) (e : RouteEntry) : Prop where
  name : r.name = e.name
  pattern : r.pattern = ⟨e.host.getD "", e.path, e.overrides⟩
  compile_eq : compile r.pattern = .ok r.artifact.route

/-- A table is what a configuration says. -/
structure Table.Faithful (t : Table) (config : Config) : Prop where
  size : t.size = config.routes.length
  /-- The routes correspond one by one. -/
  routes : List.Forall₂ NamedRoute.Faithful t.routes config.routes
  /-- Names do not come twice. -/
  nodup : (config.routes.map RouteEntry.name).Nodup
  not_blank : ∀ e ∈ config.routes, Unicode.isBlankText e.name = false
  /-- Under the name of a route the table has that route. -/
  get?_name : ∀ (i : Nat) e, config.routes[i]? = some e →
    ∃ r, t.routes[i]? = some r ∧ t.get? e.name = some r
  /-- Under other names it has none. -/
  get?_eq_none : ∀ name, name ∉ config.routes.map RouteEntry.name → t.get? name = none

/-! ### Names -/

theorem names_of_validate {artifacts : List Artifact} (h : (validate config c).result = .ok artifacts) :
    (∀ e ∈ config.routes, Unicode.isBlankText e.name = false) ∧
      (config.routes.map RouteEntry.name).Nodup := by
  obtain ⟨hblank, hnodup, -⟩ := errorsFrom_eq_nil_iff.1 (errorsFrom_of_validate h)
  have hfst := map_fst_zip_getAll config.routes c
  constructor
  · intro e he
    rw [← hfst] at he
    obtain ⟨x, hx, rfl⟩ := List.mem_map.1 he
    exact (hblank x hx).1
  · rw [← hfst, List.map_map]
    exact hnodup

/-! ### Look-up -/

namespace Table

variable {t : Table} {r : NamedRoute} {name : String}

/-- Where no name comes twice, a route is found under its name. -/
theorem get?_name_of_nodup (hnodup : (t.routes.map NamedRoute.name).Nodup) (hr : r ∈ t.routes) :
    t.get? r.name = some r := by
  cases hfind : t.get? r.name with
  | none =>
    have hne := List.find?_eq_none.1 hfind r hr
    exact absurd hne (by simp)
  | some r' =>
    have heq : r'.name = r.name := by simpa using List.find?_some hfind
    rw [List.inj_on_of_nodup_map hnodup (List.mem_of_find?_eq_some hfind) hr heq]

theorem get?_eq_none_of_not_mem (h : name ∉ t.routes.map NamedRoute.name) : t.get? name = none := by
  refine List.find?_eq_none.2 fun r hr heq => h (List.mem_map.2 ⟨r, hr, ?_⟩)
  simpa using heq

/-! ### Building -/

theorem forall₂_ofEntries {entries : List RouteEntry} {artifacts : List Artifact}
    (hlength : artifacts.length = entries.length)
    (hcompile : ∀ r ∈ (ofEntries entries artifacts).routes, compile r.pattern = .ok r.artifact.route) :
    List.Forall₂ NamedRoute.Faithful (ofEntries entries artifacts).routes entries := by
  induction entries generalizing artifacts with
  | nil => simp [ofEntries]
  | cons e entries ih =>
    cases artifacts with
    | nil => exact absurd hlength (by simp)
    | cons a artifacts =>
      obtain ⟨hhead, htail⟩ := List.forall_mem_cons.1 hcompile
      exact .cons ⟨rfl, rfl, hhead⟩ (ih (Nat.succ.inj hlength) htail)

theorem map_name_of_forall₂ {entries : List RouteEntry} {routes : List NamedRoute}
    (h : List.Forall₂ NamedRoute.Faithful routes entries) :
    routes.map NamedRoute.name = entries.map RouteEntry.name := by
  induction h with
  | nil => rfl
  | cons hhead _ ih => rw [List.map_cons, List.map_cons, hhead.name, ih]

/-- A table is faithful if its routes are, and if the names are neither blank nor come twice. -/
theorem faithful_of_forall₂ (hroutes : List.Forall₂ NamedRoute.Faithful t.routes config.routes)
    (hnodup : (config.routes.map RouteEntry.name).Nodup)
    (hblank : ∀ e ∈ config.routes, Unicode.isBlankText e.name = false) : t.Faithful config where
  size := hroutes.length_eq
  routes := hroutes
  nodup := hnodup
  not_blank := hblank
  get?_name i e he := by
    have hnames := map_name_of_forall₂ hroutes
    obtain ⟨hi, rfl⟩ := List.getElem?_eq_some_iff.1 he
    have hi' : i < t.routes.length := hroutes.length_eq ▸ hi
    have hr := hroutes.get hi' hi
    refine ⟨t.routes[i], List.getElem?_eq_getElem hi', ?_⟩
    have hget := get?_name_of_nodup (hnames ▸ hnodup) (List.getElem_mem hi')
    rwa [show t.routes[i].name = config.routes[i].name from hr.name] at hget
  get?_eq_none name hname := get?_eq_none_of_not_mem (map_name_of_forall₂ hroutes ▸ hname)

/-- The table without routes is that of the configuration without routes. -/
theorem faithful_empty : empty.Faithful {} :=
  faithful_of_forall₂ .nil List.nodup_nil (by simp)

/-- The routes of a table that is built are what their patterns are compiled to. -/
theorem compile_eq_of_ofConfig (hsound : c.Sound) (h : (ofConfig config c).result = .ok built) :
    ∀ r ∈ built.routes, compile r.pattern = .ok r.artifact.route := by
  intro r hr
  have hsound' := Cache.lasting_sound.getAll hsound (config.routes.map RouteEntry.pattern)
  exact hsound'.compile_eq _ _ (Cache.mem_entries_of_find? (find?_of_ofConfig h r hr))

/-- **A table that is built is faithful to its configuration.** -/
theorem faithful_of_ofConfig (hsound : c.Sound) (h : (ofConfig config c).result = .ok built) :
    built.Faithful config := by
  have hcompile := compile_eq_of_ofConfig hsound h
  obtain ⟨artifacts, hresult, rfl⟩ := eq_ofEntries_of_ofConfig h
  obtain ⟨hblank, hnodup⟩ := names_of_validate hresult
  have hlength : artifacts.length = config.routes.length := by
    have hmap := congrArg List.length (map_artifact?_of_validate hresult)
    simpa [Cache.length_getAll] using hmap.symm
  exact faithful_of_forall₂ (forall₂_ofEntries hlength hcompile) hnodup hblank

end Table

end RoutePatterns
