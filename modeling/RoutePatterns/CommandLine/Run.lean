import RoutePatterns.CommandLine.Help
import RoutePatterns.CommandLine.Outcome
import RoutePatterns.Json.Codec

/-!
# Running a command

`run` is the whole program less its effects: from the arguments, the filter that the environment
sets and a view of the files to an `Outcome`. `compile` prints a compiled pattern as JSON, and
`check` lists the regular expressions of the routes of a table.
-/

namespace RoutePatterns

namespace CommandLine

/-- What a command sees of the world. -/
structure Environment where
  /-- The filter of the log, if one is set. -/
  logFilter : Option String := none
  /-- The content of each file. -/
  content : String → FileContent

/-- The log level of a pattern's compilation, if none is given. -/
def compileLogLevel : String := "info"

/-- The text of the filter for a log level. -/
def filterText (logLevel : String) : String := "route_compiler=" ++ logLevel

/-- The filter of the log, with what is wrong with it. The environment's filter counts if it can be
read, and else that of the log level. -/
def openLog (env : Environment) (logLevel : String) : Log.Filter × List Note :=
  match env.logFilter.bind Log.Filter.read? with
  | some filter => (filter, [])
  | none =>
    (.readLeniently (filterText logLevel), (Log.Filter.complaints (filterText logLevel)).map .line)

/-! ### Commands -/

/-- Compiles a pattern and prints the route as JSON. -/
def runCompile (env : Environment) (logLevel : Option String) (p : Pattern) : Outcome :=
  let (filter, opening) := openLog env (logLevel.getD compileLogLevel)
  let result := RoutePatterns.compile p
  let notes := opening ++ logged filter [.ofCompilation p result]
  match result with
  | .ok r => { output := Json.prettyText r ++ "\n", notes }
  | .error e => .failure notes (patternReason e)

/-- The lines of a route in a listing. -/
def routeLines (r : NamedRoute) : List String :=
  [r.name] ++
    (if r.artifact.route.hasHost then ["  host: " ++ r.artifact.route.hostRegex] else []) ++
    ["  path: " ++ r.artifact.route.pathRegex]

/-- The listing of a table. -/
def listing (t : Table) : String := unlines (t.routes.flatMap routeLines)

/-- The lines that say what is wrong with a table. -/
def problemLines (file : String) (errors : List ValidationError) : List String :=
  (file ++ ": " ++ toString errors.length ++ " invalid route(s)") ::
    errors.map fun e => "  " ++ e.message

/-- The events of building a table. -/
def buildEvents (c : Config) (b : TableBuild) : List Log.Event :=
  ((c.routes.zip b.accesses).filterMap fun e => Log.Event.ofAccess? e.1.pattern e.2) ++
    match b.result with
    | .ok t => [.tableBuilt t.size b.cache.size]
    | .error _ => []

/-- Builds the table of a file and goes on with it. -/
def withTable (env : Environment) (logLevel : Option String) (file : String)
    (next : Watch → Outcome) : Outcome :=
  match loadConfig (env.content file) with
  | .error e => .failure [] (loadReason e)
  | .ok c =>
    let (filter, opening) := openLog env (logLevel.getD c.logLevel)
    let b := Table.ofConfig c .empty
    let notes :=
      opening ++ logged filter (.configLoaded file c.routes.length :: buildEvents c b)
    match b.result with
    | .error errors => { code := 1, notes := notes ++ (problemLines file errors).map .line }
    | .ok t =>
      let o := next ⟨file, filter, t, b.cache⟩
      { o with notes := notes ++ o.notes }

/-- Builds the table of a file and lists it. -/
def runCheck (env : Environment) (logLevel : Option String) (file : String) : Outcome :=
  withTable env logLevel file fun w => { output := listing w.table }

/-- Builds the table of a file and goes on watching the file. -/
def runWatch (env : Environment) (logLevel : Option String) (file : String) : Outcome :=
  withTable env logLevel file fun w =>
    { notes := logged w.filter [.watchStarted file], watch := some w }

/-- Runs a command. -/
def Invocation.run (env : Environment) (i : Invocation) : Outcome :=
  match i.command with
  | .compile p => runCompile env i.logLevel p
  | .check file => runCheck env i.logLevel file
  | .watch file => runWatch env i.logLevel file

/-- Runs the program. -/
def run (env : Environment) (args : List String) : Outcome :=
  match Invocation.ofArguments args with
  | .ok i => i.run env
  | .error (.help topic) => { output := unlines (helpPage topic) }
  | .error .misuse => { code := 2, notes := (helpPage none).map .line }

/-! ### Watching -/

/-- Builds the table again after a change of the file. A table that cannot be built leaves the
former one in place. -/
def Watch.reload (w : Watch) (content : FileContent) : Watch × List Note :=
  match loadConfig content with
  | .error e => (w, logged w.filter [.fileChanged, .reloadFailed e.message])
  | .ok c =>
    let b := Table.ofConfig c w.cache
    let events := .fileChanged :: buildEvents c b
    match b.result with
    | .ok t =>
      ({ w with table := t, cache := b.cache }, logged w.filter (events ++ [.reloaded t.size]))
    | .error errors =>
      ({ w with cache := b.cache },
        logged w.filter (events ++ [.reloadFailed (LoadError.validation errors).message]))

end CommandLine

end RoutePatterns
