import RoutePatterns.Proofs.Session.Requests
import RoutePatterns.Proofs.Table.Faithful

/-!
# The problems of a configuration

What a validation reports can be said route by route (`RouteEntry.problems`): the problem of the name, which
depends on the routes before, and then the problem of the pattern. `errorsFrom_eq_flatMap` shows that the
validation collects exactly these, when every request to the cache is answered as the compiler would
(`RouteEntry.Answers`). So the outcome is a function of the configuration alone (`Config.outcome`), and the
cache can only be told by the artifacts (`validate_problems`).
-/

namespace RoutePatterns

namespace RouteEntry

/-- Why the pattern of a route is refused. -/
def error? (e : RouteEntry) : Option PatternError :=
  match compile e.pattern with
  | .ok _ => none
  | .error source => some source

/-- The problem of a route's name, which is blank or the name of an earlier route, and then the problem of
its pattern. -/
def problems (index : Nat) (earlier : List RouteEntry) (e : RouteEntry) : List ValidationError :=
  (if Unicode.isBlankText e.name then [.blankName index]
    else if e.name ∈ earlier.map RouteEntry.name then [.duplicateName e.name]
    else []) ++
  (e.error?.map (ValidationError.pattern e.name)).toList

end RouteEntry

namespace Config

/-- The problems of all routes, in order. -/
def problems (config : Config) : List ValidationError :=
  config.routes.zipIdx.flatMap fun x => x.1.problems x.2 (config.routes.take x.2)

/-- The routes in their order, or all problems. -/
def outcome (config : Config) : Except (List ValidationError) (List Route) :=
  if config.problems = [] then .ok (config.routes.filterMap fun e => (compile e.pattern).toOption)
  else .error config.problems

/-- Every route has a name of its own that is not blank, and a pattern that compiles. -/
structure Valid (config : Config) : Prop where
  not_blank : ∀ e ∈ config.routes, ∃ c ∈ e.name.toList, Unicode.isBlank c = false
  nodup : (config.routes.map RouteEntry.name).Nodup
  compiles : ∀ e ∈ config.routes, ∃ r, compile e.pattern = .ok r

end Config

/-- A request for the pattern of a route gave what compilation gives. -/
def RouteEntry.Answers (e : RouteEntry) (access : Access) : Prop :=
  access.result.map Artifact.route = compile e.pattern

variable {e : RouteEntry} {access : Access} {accesses : List Access} {entries : List RouteEntry}
  {artifacts : List Artifact} {config : Config} {c : Cache}

theorem isBlankText_eq_false_iff {name : String} :
    Unicode.isBlankText name = false ↔ ∃ c ∈ name.toList, Unicode.isBlank c = false := by
  simp [Unicode.isBlankText]

/-! ### One route -/

theorem RouteEntry.error?_eq_none_iff : e.error? = none ↔ ∃ r, compile e.pattern = .ok r := by
  rw [error?]
  cases compile e.pattern <;> simp

namespace RouteEntry.Answers

theorem error?_eq (h : e.Answers access) : access.error? = e.error? := by
  unfold RouteEntry.Answers at h
  rw [RouteEntry.error?, ← h]
  cases access <;> rfl

theorem map_route_artifact? (h : e.Answers access) :
    access.artifact?.map Artifact.route = (compile e.pattern).toOption := by
  unfold RouteEntry.Answers at h
  rw [← h]
  cases access <;> rfl

theorem compile_eq {a : Artifact} (h : e.Answers access) (ha : access.artifact? = some a) :
    compile e.pattern = .ok a.route := by
  unfold RouteEntry.Answers at h
  rw [← h]
  cases access <;> cases ha <;> rfl

end RouteEntry.Answers

/-! ### All routes -/

/-- **The validation collects the problems of the routes one after the other.** The names that were seen are
those of the earlier routes, but for the blank ones, with which no name is compared. -/
theorem errorsFrom_eq_flatMap (earlier : List RouteEntry) (seen : List String)
    (h : List.Forall₂ RouteEntry.Answers entries accesses)
    (hseen : ∀ name, Unicode.isBlankText name = false →
      (name ∈ seen ↔ name ∈ earlier.map RouteEntry.name)) :
    errorsFrom earlier.length seen (entries.zip accesses) =
      (entries.zipIdx earlier.length).flatMap fun x =>
        x.1.problems x.2 ((earlier ++ entries).take x.2) := by
  induction h generalizing earlier seen with
  | nil => rfl
  | @cons e access entries accesses hhead _ ih =>
    have hseen' : ∀ name, Unicode.isBlankText name = false →
        (name ∈ (if Unicode.isBlankText e.name then seen else e.name :: seen) ↔
          name ∈ (earlier ++ [e]).map RouteEntry.name) := by
      intro name hname
      rw [List.map_append, List.mem_append, ← hseen name hname, List.map_singleton, List.mem_singleton]
      split
      · next hblank =>
        have hne : name ≠ e.name := by
          rintro rfl
          simp [hname] at hblank
        simp [hne]
      · rw [List.mem_cons, or_comm]
    have hrest := ih (earlier ++ [e]) _ hseen'
    rw [List.length_append, List.length_singleton, List.append_assoc, List.singleton_append] at hrest
    rw [List.zip_cons_cons, errorsFrom, hrest, List.zipIdx_cons, List.flatMap_cons, List.take_left']
    · rw [patternErrors, hhead.error?_eq, RouteEntry.problems, nameErrors]
      cases hblank : Unicode.isBlankText e.name with
      | true => rfl
      | false => simp only [List.contains_iff_mem, hseen e.name hblank]
    · rfl

theorem Config.problems_eq (h : List.Forall₂ RouteEntry.Answers config.routes accesses) :
    errorsFrom 0 [] (config.routes.zip accesses) = config.problems := by
  have hall := errorsFrom_eq_flatMap [] [] h (by simp)
  simpa [Config.problems] using hall

theorem map_route_filterMap (h : List.Forall₂ RouteEntry.Answers entries accesses) :
    (accesses.filterMap Access.artifact?).map Artifact.route =
      entries.filterMap fun e => (compile e.pattern).toOption := by
  induction h with
  | nil => rfl
  | cons hhead _ ih =>
    rw [List.map_filterMap] at ih ⊢
    rw [List.filterMap_cons, List.filterMap_cons, hhead.map_route_artifact?, ih]

theorem forall_error?_iff (h : List.Forall₂ RouteEntry.Answers entries accesses) :
    (∀ x ∈ entries.zip accesses, x.2.error? = none) ↔ ∀ e ∈ entries, ∃ r, compile e.pattern = .ok r := by
  induction h with
  | nil => simp
  | cons hhead _ ih =>
    rw [List.zip_cons_cons, List.forall_mem_cons, List.forall_mem_cons, ih, hhead.error?_eq,
      RouteEntry.error?_eq_none_iff]

/-- The artifacts are those of the routes, one by one. -/
theorem forall₂_compile_eq (h : List.Forall₂ RouteEntry.Answers entries accesses)
    (hall : accesses.map Access.artifact? = artifacts.map some) :
    List.Forall₂ (fun e a => compile e.pattern = .ok a.route) entries artifacts := by
  induction h generalizing artifacts with
  | nil =>
    obtain rfl : artifacts = [] := by simpa using hall.symm
    exact .nil
  | cons hhead _ ih =>
    cases artifacts with
    | nil => cases hall
    | cons a artifacts =>
      obtain ⟨ha, hall⟩ := List.cons.inj hall
      exact .cons (hhead.compile_eq ha) (ih hall)

/-! ### Validation -/

/-- A sound cache answers for every route as the compiler would. -/
theorem forall₂_answers (h : c.Sound) (config : Config) :
    List.Forall₂ RouteEntry.Answers config.routes (validate config c).accesses := by
  have hall := Session.forall₂_getAll h (config.routes.map RouteEntry.pattern)
  rw [List.forall₂_map_left_iff] at hall
  exact hall

namespace Config

/-- **A configuration is valid if it has no problems.** -/
theorem problems_eq_nil_iff (config : Config) : config.problems = [] ↔ config.Valid := by
  have hanswers := forall₂_answers Cache.sound_empty config
  have hfst : (config.routes.zip (validate config .empty).accesses).map Prod.fst = config.routes :=
    map_fst_zip_getAll config.routes .empty
  have hnames : (config.routes.zip (validate config .empty).accesses).map (fun x => x.1.name) =
      config.routes.map RouteEntry.name := by
    rw [← hfst, List.map_map, hfst]
    rfl
  have hblank : (∀ x ∈ config.routes.zip (validate config .empty).accesses,
      Unicode.isBlankText x.1.name = false ∧ x.1.name ∉ []) ↔
        ∀ e ∈ config.routes, Unicode.isBlankText e.name = false := by
    rw [← hfst, List.forall_mem_map, hfst]
    simp
  rw [← problems_eq hanswers, errorsFrom_eq_nil_iff, forall_error?_iff hanswers, hnames, hblank]
  simp only [isBlankText_eq_false_iff]
  exact ⟨fun h => ⟨h.1, h.2.1, h.2.2⟩, fun h => ⟨h.not_blank, h.nodup, h.compiles⟩⟩

end Config

theorem result_validate (h : c.Sound) (config : Config) :
    (validate config c).result =
      if config.problems = [] then .ok ((validate config c).accesses.filterMap Access.artifact?)
      else .error config.problems := by
  rw [← Config.problems_eq (forall₂_answers h config)]
  simp only [validate, List.isEmpty_iff]

/-- **What a validation comes to does not depend on the cache**, but for the artifacts. -/
theorem map_route_result_validate (h : c.Sound) (config : Config) :
    (validate config c).result.map (List.map Artifact.route) = config.outcome := by
  rw [result_validate h, Config.outcome, ← map_route_filterMap (forall₂_answers h config)]
  split <;> rfl

/-- **A validation reports all problems of a configuration and nothing else, whatever the cache holds.** With the
cache of any session, a configuration is accepted if it is valid, and what is returned for each route, in their
order, is what its pattern is compiled to. Otherwise the problems of the routes are returned in order. The cache of
another session gives the same routes or problems. -/
theorem validate_problems (steps : List Step) (config : Config) :
    let result := (validate config (Session.start.run steps).cache).result
    ((∃ artifacts, result = .ok artifacts) ↔ config.Valid) ∧
      (∀ artifacts, result = .ok artifacts →
        List.Forall₂ (fun e a => compile e.pattern = .ok a.route) config.routes artifacts) ∧
      (∀ errors, result = .error errors ↔ ¬ config.Valid ∧ errors = config.problems) ∧
      ∀ later : List Step,
        (validate config (Session.start.run later).cache).result.map (List.map Artifact.route) =
          result.map (List.map Artifact.route) := by
  intro result
  have hsound := Session.sound_run steps
  have hresult := result_validate hsound config
  rw [← config.problems_eq_nil_iff]
  refine ⟨?_, fun artifacts h => ?_, fun errors => ?_, fun later => ?_⟩
  · by_cases hproblems : config.problems = [] <;> simp [result, hresult, hproblems]
  · exact forall₂_compile_eq (forall₂_answers hsound config) (map_artifact?_of_validate h)
  · by_cases hproblems : config.problems = [] <;> simp [result, hresult, hproblems, eq_comm]
  · rw [map_route_result_validate (Session.sound_run later), map_route_result_validate hsound]

/-- A blank name next to a refused pattern, and a name that comes twice. -/
def faultyConfig : Config where
  routes := [{ name := " ", path := "/{1}" }, { name := "a", path := "/a" },
    { name := "a", path := "/{x}/{x}" }]

/-- Both problems of a route are reported, also if the cache holds a pattern of the configuration. -/
theorem validate_problems_faulty :
    let cache := (Session.start.run [.get { path := "/a" }]).cache
    (validate faultyConfig cache).result =
        .error [.blankName 0, .pattern " " (.leadingDigit "/{1}" "1"), .duplicateName "a",
          .pattern "a" (.repeatedName "/{x}/{x}" "x")] ∧
      ∃ a, (validate { routes := [{ name := "a", path := "/a" }] } cache).result = .ok [a] ∧
        compile { path := "/a" } = .ok a.route := by
  intro cache
  have hproblems : faultyConfig.problems =
      [.blankName 0, .pattern " " (.leadingDigit "/{1}" "1"), .duplicateName "a",
        .pattern "a" (.repeatedName "/{x}/{x}" "x")] := by
    decide +kernel
  have hvalid : Config.Valid { routes := [{ name := "a", path := "/a" }] } :=
    (Config.problems_eq_nil_iff _).1 (by decide +kernel)
  constructor
  · obtain ⟨-, -, herror, -⟩ := validate_problems [.get { path := "/a" }] faultyConfig
    refine (herror _).2 ⟨fun h => ?_, hproblems.symm⟩
    rw [← Config.problems_eq_nil_iff, hproblems] at h
    cases h
  · obtain ⟨hok, hroutes, -⟩ :=
      validate_problems [.get { path := "/a" }] { routes := [{ name := "a", path := "/a" }] }
    obtain ⟨artifacts, hresult⟩ := hok.2 hvalid
    obtain _ | ⟨hcompile, _ | _⟩ := hroutes artifacts hresult
    exact ⟨_, hresult, hcompile⟩

end RoutePatterns
