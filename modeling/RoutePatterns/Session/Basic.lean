import RoutePatterns.Cache.Handle
import RoutePatterns.Cache.Metrics
import RoutePatterns.Route.ConstraintMemo
import RoutePatterns.Table.Load

/-!
# Sessions

A session uses one cache for everything: for single patterns, for a current table that is replaced
on demand, and for a watched table that follows a file. It has a handle on the cache, and clones of it
where the cache is used by another part. `Session.step` takes one step and gives a reply. A load that
fails leaves both tables as they are.
-/

namespace RoutePatterns

/-- The state of a session. -/
structure Session where
  /-- Where caches are kept. -/
  caches : CacheStore
  /-- The handle on the cache. -/
  handle : CacheHandle
  metrics : Metrics := {}
  /-- The expressions of the constraints that were checked. -/
  memo : ConstraintMemo := .empty
  /-- The table that is used. -/
  current : Table := .empty
  /-- The table that follows the file. -/
  watched : Table := .empty
  /-- The content of the file, if it exists. -/
  file : Option ByteArray := none

/-- A step of a session. -/
inductive Step where
  /-- Gets the artifact of a pattern. -/
  | get (p : Pattern)
  /-- Gets the artifact of a pattern through a new clone of the handle. -/
  | getClone (p : Pattern)
  /-- Clears the cache. -/
  | clear
  /-- Replaces the current table by that of a text. -/
  | parseTable (s : String)
  /-- Sets the content of the file. -/
  | write (bytes : ByteArray)
  /-- Deletes the file. -/
  | remove
  /-- Replaces the current table by that of the file. -/
  | loadTable
  /-- Reads the configuration of the file. -/
  | loadConfig
  /-- Finds a route of the current table. -/
  | find (name : String)
  /-- Generates path and host of a route of the current table. -/
  | generate (name : String) (params : Bindings)
  /-- Replaces the watched table by that of the file. -/
  | reload
  /-- Lists the watched table. -/
  | active

/-- The reply to a step. -/
inductive Reply where
  | done
  | artifact (a : Artifact)
  | rejected (e : PatternError)
  | table (t : Table)
  | config (c : Config)
  | route (r : Option NamedRoute)
  /-- The generated path and host; `none` if there is no such route. -/
  | generated (r : Option (Except GenerateError String × Except GenerateError String))
  /-- The number of routes of the watched table. -/
  | reloaded (n : Nat)
  | failed (e : LoadError)

/-- The reply that shows what a request to the cache came to. -/
def Reply.ofAccess (access : Access) : Reply :=
  match access.result with
  | .ok a => .artifact a
  | .error e => .rejected e

theorem Reply.ofAccess_eq_artifact_iff {access : Access} {a : Artifact} :
    ofAccess access = .artifact a ↔ access.artifact? = some a := by
  cases access <;> simp [ofAccess, Access.result, Access.artifact?]

theorem Reply.ofAccess_ne_reloaded (access : Access) (n : Nat) : ofAccess access ≠ .reloaded n := by
  cases access <;> simp [ofAccess, Access.result]

namespace Session

/-- The state before the first step, with a new cache. -/
def start : Session :=
  let (handle, caches) := CacheStore.empty.create
  { caches, handle }

/-- The cache. -/
def cache (s : Session) : Cache := s.caches.read s.handle

/-- The content of the file. -/
def content (s : Session) : FileContent :=
  match s.file with
  | some bytes => .ok bytes
  | none => .error .notFound

/-- Keeps what loading a table through a handle did to the cache. -/
def afterLoad (s : Session) (h : CacheHandle) (load : TableLoad) : Session :=
  { s with caches := s.caches.write h load.cache, metrics := s.metrics.recordAll load.accesses }

/-- Replaces the current table by a table that was loaded through a handle. -/
def replaceCurrent (s : Session) (h : CacheHandle) (load : TableLoad) : Session × Reply :=
  match load.result with
  | .ok t => ({ s.afterLoad h load with current := t }, .table t)
  | .error e => (s.afterLoad h load, .failed e)

/-- Replaces the watched table by a table that was loaded through a handle. -/
def replaceWatched (s : Session) (h : CacheHandle) (load : TableLoad) : Session × Reply :=
  match load.result with
  | .ok t => ({ s.afterLoad h load with watched := t }, .reloaded t.size)
  | .error e => (s.afterLoad h load, .failed e)

/-- Gets the artifact of a pattern through a handle. -/
def get (s : Session) (h : CacheHandle) (p : Pattern) : Session × Reply :=
  let (access, caches) := s.caches.getOrCompile h p
  ({ s with caches := caches, metrics := s.metrics.record access }, .ofAccess access)

/-- Generates path and host of a route of the current table. -/
def generate (s : Session) (name : String) (params : Bindings) : Session × Reply :=
  match s.current.get? name with
  | none => (s, .generated none)
  | some r =>
    let (path, memo) := s.memo.generatePath r.artifact.route params.get?
    let (host, memo) := memo.generateHost r.artifact.route params.get?
    ({ s with memo := memo }, .generated (some (path, host)))

/-- Takes a step, with the cache of a handle. The watched table has a handle of its own, a clone. -/
def stepThrough (s : Session) (h : CacheHandle) : Step → Session × Reply
  | .get p => s.get h p
  | .getClone p => s.get h.clone p
  | .clear => ({ s with caches := s.caches.clear h, metrics := s.metrics.recordClear }, .done)
  | .parseTable text => s.replaceCurrent h (RoutePatterns.parseTable text (s.caches.read h))
  | .write bytes => ({ s with file := some bytes }, .done)
  | .remove => ({ s with file := none }, .done)
  | .loadTable => s.replaceCurrent h (RoutePatterns.loadTable s.content (s.caches.read h))
  | .loadConfig =>
    match RoutePatterns.loadConfig s.content with
    | .ok c => (s, .config c)
    | .error e => (s, .failed e)
  | .find name => (s, .route (s.current.get? name))
  | .generate name params => s.generate name params
  | .reload => s.replaceWatched h.clone (RoutePatterns.loadTable s.content (s.caches.read h.clone))
  | .active => (s, .table s.watched)

/-- Takes a step. -/
def step (s : Session) (t : Step) : Session × Reply := s.stepThrough s.handle t

/-- The state after several steps. -/
def run (s : Session) (steps : List Step) : Session := steps.foldl (fun s t => (s.step t).1) s

/-! ### What the steps come to -/

theorem step_get (s : Session) (p : Pattern) : s.step (.get p) = s.get s.handle p := rfl

/-- A clone gets what the handle itself gets. -/
theorem step_getClone (s : Session) (p : Pattern) : s.step (.getClone p) = s.get s.handle p := rfl

theorem step_parseTable (s : Session) (text : String) :
    s.step (.parseTable text) = s.replaceCurrent s.handle (RoutePatterns.parseTable text s.cache) := rfl

theorem step_loadTable (s : Session) :
    s.step .loadTable = s.replaceCurrent s.handle (RoutePatterns.loadTable s.content s.cache) := rfl

theorem step_loadConfig (s : Session) :
    s.step .loadConfig = match RoutePatterns.loadConfig s.content with
      | .ok c => (s, .config c)
      | .error e => (s, .failed e) := rfl

theorem step_generate (s : Session) (name : String) (params : Bindings) :
    s.step (.generate name params) = s.generate name params := rfl

theorem step_reload (s : Session) :
    s.step .reload = s.replaceWatched s.handle (RoutePatterns.loadTable s.content s.cache) := rfl

@[simp] theorem cache_start : start.cache = .empty := CacheStore.read_create _

@[simp] theorem cache_step_clear (s : Session) : (s.step .clear).1.cache = s.cache.clear :=
  CacheStore.read_write_self ..

@[simp] theorem cache_get (s : Session) (p : Pattern) :
    (s.get s.handle p).1.cache = (s.cache.getOrCompile p).2 := CacheStore.read_write_self ..

end Session

end RoutePatterns
