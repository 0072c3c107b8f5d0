import RoutePatterns.CommandLine.Run
import RoutePatterns.Proofs.CommandLine.Arguments
import RoutePatterns.Proofs.CommandLine.Outcome
import RoutePatterns.Proofs.Route.Layout
import RoutePatterns.Proofs.Table.Faithful

/-!
# Checking a file

The command `check` loads a file on a way of its own, on which the log is opened between the reading of the
configuration and the building of the table. It still agrees with the loading of the table through an empty
cache (`check_agrees_with_loading`): it succeeds on the same files, lists the routes of the same table, and tells
the same problems.
-/

namespace RoutePatterns

namespace CommandLine

variable {env : Environment} {logLevel : Option String} {file : String} {config : Config} {t : Table}

/-- The table of a file, loaded through an empty cache. -/
def loaded (env : Environment) (file : String) : Except LoadError Table :=
  (loadTable (env.content file) .empty).result

/-- A route in a listing: its name, its host if the pattern has one, and its path. -/
def listedLines (r : NamedRoute) : List String :=
  if r.pattern.host = "" then [r.name, "  path: " ++ r.artifact.route.pathRegex]
  else [r.name, "  host: " ++ r.artifact.route.hostRegex, "  path: " ++ r.artifact.route.pathRegex]

/-- The characters of a listing of routes: each line is followed by a line break. -/
def listedChars (routes : List NamedRoute) : List Char :=
  (routes.flatMap listedLines).flatMap fun line => line.toList ++ ['\n']

/-- What the log says after it was opened: what is wrong with its filter, and then events. -/
def IsLogged (env : Environment) (logLevel : String) (notes : List Note) : Prop :=
  ∃ events : List Log.Event, notes = (openLog env logLevel).2 ++ events.map .event

/-- What a check of a file comes to agrees with the loading of its table. -/
structure AgreesWithLoading (env : Environment) (logLevel : Option String) (file : String) (o : Outcome) :
    Prop where
  /-- If there is a table, its routes are listed. -/
  reports : Reports (loaded env file) (fun t output => output.toList = listedChars t.routes) o
  /-- The problems of a configuration are told after what the log says. -/
  problems : ∀ errors, loaded env file = .error (.validation errors) →
    ∃ config log, loadConfig (env.content file) = .ok config ∧
      IsLogged env (logLevel.getD config.logLevel) log ∧
      o.notes = log ++ (.line (file ++ ": " ++ toString errors.length ++ " invalid route(s)") ::
        errors.map fun e => .line ("  " ++ e.message))

/-! ### Listings -/

theorem routeLines_of_compile {r : NamedRoute} (h : compile r.pattern = .ok r.artifact.route) :
    routeLines r = listedLines r := by
  have hhost := hasHost_iff_of_compile h
  by_cases hempty : r.pattern.host = ""
  · have hnone : r.artifact.route.hasHost = false := by simpa [hempty] using hhost
    simp [routeLines, listedLines, hempty, hnone]
  · have hsome : r.artifact.route.hasHost = true := hhost.2 hempty
    simp [routeLines, listedLines, hempty, hsome]

/-- Every line is printed with a line break after it. -/
theorem toList_unlines (lines : List String) :
    (unlines lines).toList = lines.flatMap fun line => line.toList ++ ['\n'] := by
  induction lines with
  | nil => rfl
  | cons line lines ih =>
    rw [unlines, List.map_cons, String.join_cons, String.toList_append, String.toList_append, List.flatMap_cons,
      ← ih]
    rfl

/-- A table that is built is listed with the hosts of the patterns that have one. -/
theorem toList_listing_of_ofConfig (h : (Table.ofConfig config .empty).result = .ok t) :
    (listing t).toList = listedChars t.routes := by
  have hlines : t.routes.flatMap routeLines = t.routes.flatMap listedLines :=
    List.flatMap_congr fun r hr => routeLines_of_compile (Table.compile_eq_of_ofConfig Cache.sound_empty h r hr)
  rw [listing, hlines, toList_unlines, listedChars]

/-! ### The ways that a check can go -/

theorem loaded_of_loadConfig_eq_error {e : LoadError} (h : loadConfig (env.content file) = .error e) :
    loaded env file = .error e := by
  rw [loaded, loadTable, h]
  rfl

theorem loaded_of_loadConfig (h : loadConfig (env.content file) = .ok config) :
    loaded env file = (Table.ofConfig config .empty).result.mapError .validation := by
  rw [loaded, loadTable, h]
  rfl

theorem runCheck_of_loadConfig_eq_error {e : LoadError} (h : loadConfig (env.content file) = .error e) :
    runCheck env logLevel file = .failure [] (loadReason e) := by
  rw [runCheck, withTable, h]

theorem runCheck_of_ofConfig (logLevel : Option String)
    (hconfig : loadConfig (env.content file) = .ok config)
    (h : (Table.ofConfig config .empty).result = .ok t) :
    ∃ notes, runCheck env logLevel file = { output := listing t, notes } := by
  simp only [runCheck, withTable, hconfig, h]
  exact ⟨_, rfl⟩

theorem runCheck_of_errors {errors : List ValidationError} (logLevel : Option String)
    (hconfig : loadConfig (env.content file) = .ok config)
    (h : (Table.ofConfig config .empty).result = .error errors) :
    ∃ log, IsLogged env (logLevel.getD config.logLevel) log ∧
      runCheck env logLevel file = { code := 1, notes := log ++ (problemLines file errors).map .line } := by
  simp only [runCheck, withTable, hconfig, h]
  exact ⟨_, ⟨_, rfl⟩, rfl⟩

/-- Problems are found when a table is built, and not before. -/
theorem loadConfig_ne_validation (content : FileContent) (errors : List ValidationError) :
    loadConfig content ≠ .error (.validation errors) := by
  have hparse : ∀ s, parseConfig s ≠ .error (.validation errors) := by
    intro s
    rw [parseConfig]
    split <;> simp
  have hbind : loadConfig content = content.text.bind parseConfig := rfl
  rw [hbind]
  fun_cases FileContent.text content with
  | case1 e => simp [Except.bind]
  | case2 bytes s => exact hparse s
  | case3 bytes => simp [Except.bind]

theorem agrees_of_loadConfig_eq_error {e : LoadError} (h : loadConfig (env.content file) = .error e) :
    AgreesWithLoading env logLevel file (runCheck env logLevel file) := by
  have hloaded := loaded_of_loadConfig_eq_error h
  rw [runCheck_of_loadConfig_eq_error h]
  refine ⟨reports_of_eq_error hloaded, fun errors herrors => ?_⟩
  obtain rfl := Except.error.inj (hloaded.symm.trans herrors)
  exact absurd h (loadConfig_ne_validation _ errors)

theorem agrees_of_ofConfig (hconfig : loadConfig (env.content file) = .ok config)
    (h : (Table.ofConfig config .empty).result = .ok t) :
    AgreesWithLoading env logLevel file (runCheck env logLevel file) := by
  have hloaded : loaded env file = .ok t := by rw [loaded_of_loadConfig hconfig, h]; rfl
  obtain ⟨notes, hrun⟩ := runCheck_of_ofConfig logLevel hconfig h
  rw [hrun]
  refine ⟨reports_of_eq_ok hloaded (toList_listing_of_ofConfig h), fun errors herrors => ?_⟩
  exact absurd (hloaded.symm.trans herrors) (by simp)

theorem agrees_of_errors {errors : List ValidationError} (hconfig : loadConfig (env.content file) = .ok config)
    (h : (Table.ofConfig config .empty).result = .error errors) :
    AgreesWithLoading env logLevel file (runCheck env logLevel file) := by
  have hloaded : loaded env file = .error (.validation errors) := by rw [loaded_of_loadConfig hconfig, h]; rfl
  obtain ⟨log, hlog, hrun⟩ := runCheck_of_errors logLevel hconfig h
  rw [hrun]
  refine ⟨reports_of_eq_error hloaded, fun errors' herrors' => ?_⟩
  obtain rfl : errors = errors' := by simpa using hloaded.symm.trans herrors'
  exact ⟨config, log, hconfig, hlog, by simp [problemLines]⟩

/-! ### Checks of a file -/

theorem ofArguments_check_endOfOptions (hne : file ≠ "") :
    Invocation.ofArguments ["check", "--", file] = .ok ⟨none, .check file⟩ := by
  have hread : Draft.read .check {} ["--", file] = .ok { file := some file } := read_endOfOptions rfl hne
  refine (ofArguments_name .check ["--", file]).trans ?_
  simp only [Invocation.read, hread]
  rfl

theorem ofArguments_check (hne : file ≠ "") (h : isValue file = true) :
    Invocation.ofArguments ["check", file] = .ok ⟨none, .check file⟩ := by
  have hread : Draft.read .check {} [file] = .ok { file := some file } := read_file rfl hne h
  refine (ofArguments_name .check [file]).trans ?_
  simp only [Invocation.read, hread]
  rfl

/-- **Checking a file agrees with loading its table**, whatever the file contains and whether there is one. Every
name of a file can be given to the command, if need be after two hyphens. -/
theorem check_agrees_with_loading (env : Environment) :
    (∀ file, file ≠ "" →
        Invocation.ofArguments ["check", "--", file] = .ok ⟨none, .check file⟩ ∧
          (isValue file = true → Invocation.ofArguments ["check", file] = .ok ⟨none, .check file⟩)) ∧
      ∀ args logLevel file, Invocation.ofArguments args = .ok ⟨logLevel, .check file⟩ →
        AgreesWithLoading env logLevel file (run env args) := by
  refine ⟨fun file hne => ⟨ofArguments_check_endOfOptions hne, ofArguments_check hne⟩, ?_⟩
  intro args logLevel file hargs
  have hrun : run env args = runCheck env logLevel file := by rw [run, hargs]; rfl
  rw [hrun]
  cases hconfig : loadConfig (env.content file) with
  | error e => exact agrees_of_loadConfig_eq_error hconfig
  | ok config =>
    cases hresult : (Table.ofConfig config .empty).result with
    | error errors => exact agrees_of_errors hconfig hresult
    | ok t => exact agrees_of_ofConfig hconfig hresult

/-- A file with a table, and one that has two routes of one name. There is no other file. -/
def sites : Environment where
  content file :=
    if file = "sites.toml" then .ok
      ("[[routes]]\nname = \"home\"\npath = \"/\"\n" ++
        "[[routes]]\nname = \"blog\"\nhost = \"\x7bsite\x7d.org\"\npath = \"/\x7bpost\x7d\"").toUTF8
    else if file = "homes.toml" then .ok
      "routes = [\x7bname = \"home\", path = \"/\"\x7d, \x7bname = \"home\", path = \"/home\"\x7d]".toUTF8
    else .error .notFound

/-- The routes of a table are printed, the problems of a configuration are told, and a file that is not there is
refused. -/
theorem check_agrees_with_loading_sites :
    (AgreesWithLoading sites none "sites.toml" (run sites ["check", "sites.toml"]) ∧
        (run sites ["check", "sites.toml"]).output =
          "home\n  path: ^/$\nblog\n  host: ^(?<site>[^\\.]+)\\.org$\n  path: ^/(?<post>[^/]+)$\n") ∧
      (AgreesWithLoading sites none "homes.toml" (run sites ["check", "homes.toml"]) ∧
        loaded sites "homes.toml" = .error (.validation [.duplicateName "home"]) ∧
        (run sites ["check", "homes.toml"]).output = "") ∧
      (AgreesWithLoading sites none "none.toml" (run sites ["check", "none.toml"]) ∧
        loaded sites "none.toml" = .error (.file .notFound) ∧
        (run sites ["check", "none.toml"]).code = 1) := by
  have hagrees : ∀ file, file ≠ "" → isValue file = true →
      AgreesWithLoading sites none file (run sites ["check", file]) := by
    intro file hne hvalue
    obtain ⟨hargs, hagrees⟩ := check_agrees_with_loading sites
    exact hagrees _ _ _ ((hargs file hne).2 hvalue)
  have hsites := hagrees "sites.toml" (by decide) (by decide +kernel)
  have hhomes := hagrees "homes.toml" (by decide) (by decide +kernel)
  have hnone := hagrees "none.toml" (by decide) (by decide +kernel)
  have hproblem : loaded sites "homes.toml" = .error (.validation [.duplicateName "home"]) := by decide +kernel
  have hmissing : loaded sites "none.toml" = .error (.file .notFound) := by decide +kernel
  refine ⟨⟨hsites, ?_⟩, ⟨hhomes, hproblem, (hhomes.reports.failed _ hproblem).2⟩,
    hnone, hmissing, (hnone.reports.failed _ hmissing).1⟩
  have htable : (loaded sites "sites.toml").map (fun t => listedChars t.routes) =
      .ok "home\n  path: ^/$\nblog\n  host: ^(?<site>[^\\.]+)\\.org$\n  path: ^/(?<post>[^/]+)$\n".toList := by
    decide +kernel
  cases hloaded : loaded sites "sites.toml" with
  | error e =>
    rw [hloaded] at htable
    cases htable
  | ok t =>
    rw [hloaded] at htable
    apply String.toList_injective
    rw [hsites.reports.shows t hloaded]
    exact Except.ok.inj htable

end CommandLine

end RoutePatterns
