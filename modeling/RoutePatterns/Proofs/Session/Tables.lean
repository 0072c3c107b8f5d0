import RoutePatterns.Proofs.Session.Requests

/-!
# The tables of a session

A session holds two tables, each in a slot of its own. A step builds a table for one slot at most
(`Session.builtFor?`), and a slot changes only when a table was built for it (`Session.table_step`). So a slot
holds the table that was built for it last (`Session.table_run`), a load that fails leaves both slots alone,
and it makes no difference whether a table is read from a text or from a file
(`Session.tables_all_or_nothing`).
-/

namespace RoutePatterns

/-- A place for a table. -/
inductive Slot where
  /-- The table that is used. -/
  | current
  /-- The table that follows the file. -/
  | watched
deriving DecidableEq

/-- The slot that a step loads a table for. -/
def Step.slot? : Step → Option Slot
  | .parseTable _ | .loadTable => some .current
  | .reload => some .watched
  | _ => none

/-- The content of a file that holds a text is the text. -/
theorem loadTable_toUTF8 (text : String) (c : Cache) : loadTable (.ok text.toUTF8) c = parseTable text c := by
  have htext : String.fromUTF8? text.toUTF8 = some text := dif_pos text.isValidUTF8
  have hconfig : loadConfig (.ok text.toUTF8) = parseConfig text := by
    simp only [loadConfig, FileContent.text, htext]
    rfl
  rw [loadTable, hconfig, parseTable]

namespace Session

variable {s s' : Session} {t : Step} {slot : Slot} {built : Table} {load : TableLoad} {e : LoadError}
  {n : Nat} {text : String} {h : CacheHandle}

/-- The table of a slot. -/
def table (s : Session) : Slot → Table
  | .current => s.current
  | .watched => s.watched

/-- The table that a step builds, if it loads one and does not fail. -/
def built? (s : Session) : Step → Option Table
  | .parseTable text => (RoutePatterns.parseTable text s.cache).result.toOption
  | .loadTable | .reload => (RoutePatterns.loadTable s.content s.cache).result.toOption
  | _ => none

/-- The table that a step builds for a slot. -/
def builtFor? (s : Session) (slot : Slot) (t : Step) : Option Table :=
  if t.slot? = some slot then s.built? t else none

/-- The tables that a run builds for a slot, in order. -/
def builtIn (s : Session) (slot : Slot) : List Step → List Table
  | [] => []
  | t :: steps => (s.builtFor? slot t).toList ++ (s.step t).1.builtIn slot steps

/-! ### One step -/

theorem eq_ok_of_toOption {ε α : Type} {x : Except ε α} {y : α} (h : x.toOption = some y) : x = .ok y := by
  cases x with
  | ok z => rw [Option.some.inj h]
  | error e => exact absurd h (by simp [Except.toOption])

theorem built?_of_builtFor? (h : s.builtFor? slot t = some built) : s.built? t = some built := by
  rw [builtFor?] at h
  split at h
  · exact h
  · exact absurd h (by simp)

theorem table_replaceCurrent (s : Session) (h : CacheHandle) (load : TableLoad) (slot : Slot) :
    (s.replaceCurrent h load).1.table slot =
      if slot = .current then load.result.toOption.getD s.current else s.table slot := by
  cases hresult : load.result <;> cases slot <;> simp only [replaceCurrent, hresult] <;> rfl

theorem table_replaceWatched (s : Session) (h : CacheHandle) (load : TableLoad) (slot : Slot) :
    (s.replaceWatched h load).1.table slot =
      if slot = .watched then load.result.toOption.getD s.watched else s.table slot := by
  cases hresult : load.result <;> cases slot <;> simp only [replaceWatched, hresult] <;> rfl

/-- **A slot changes only when a table is built for it.** -/
theorem table_step (s : Session) (t : Step) (slot : Slot) :
    (s.step t).1.table slot = (s.builtFor? slot t).getD (s.table slot) := by
  cases t with
  | parseTable text =>
    rw [step_parseTable, table_replaceCurrent]
    cases slot <;> rfl
  | loadTable =>
    rw [step_loadTable, table_replaceCurrent]
    cases slot <;> rfl
  | reload =>
    rw [step_reload, table_replaceWatched]
    cases slot <;> rfl
  | loadConfig =>
    rw [step_loadConfig]
    split <;> rfl
  | generate name params =>
    rw [step_generate, generate]
    split <;> rfl
  | get p => rfl
  | getClone p => rfl
  | clear => rfl
  | write bytes => rfl
  | remove => rfl
  | find name => rfl
  | active => rfl

theorem table_step_of_built (h : s.builtFor? slot t = some built) : (s.step t).1.table slot = built := by
  rw [table_step, h]
  rfl

theorem table_step_of_ne (h : t.slot? ≠ some slot) : (s.step t).1.table slot = s.table slot := by
  rw [table_step, builtFor?, if_neg h]
  rfl

theorem reply_replaceCurrent_eq_table_iff :
    (s.replaceCurrent h load).2 = .table built ↔ load.result.toOption = some built := by
  cases hresult : load.result <;> simp [replaceCurrent, hresult, Except.toOption]

theorem reply_replaceCurrent_eq_failed_iff :
    (s.replaceCurrent h load).2 = .failed e ↔ load.result = .error e := by
  cases hresult : load.result <;> simp [replaceCurrent, hresult]

theorem reply_replaceCurrent_ne_reloaded : (s.replaceCurrent h load).2 ≠ .reloaded n := by
  cases hresult : load.result <;> simp [replaceCurrent, hresult]

theorem reply_replaceWatched_eq_reloaded_iff :
    (s.replaceWatched h load).2 = .reloaded n ↔
      ∃ built, load.result.toOption = some built ∧ built.size = n := by
  cases hresult : load.result <;> simp [replaceWatched, hresult, Except.toOption]

theorem reply_replaceWatched_eq_failed_iff :
    (s.replaceWatched h load).2 = .failed e ↔ load.result = .error e := by
  cases hresult : load.result <;> simp [replaceWatched, hresult]

/-- A step that fails builds no table. -/
theorem built?_of_failed (h : (s.step t).2 = .failed e) : s.built? t = none := by
  cases t with
  | parseTable text =>
    rw [step_parseTable, reply_replaceCurrent_eq_failed_iff] at h
    rw [built?, h, Except.toOption]
  | loadTable =>
    rw [step_loadTable, reply_replaceCurrent_eq_failed_iff] at h
    rw [built?, h, Except.toOption]
  | reload =>
    rw [step_reload, reply_replaceWatched_eq_failed_iff] at h
    rw [built?, h, Except.toOption]
  | _ => rfl

theorem table_step_of_failed (h : (s.step t).2 = .failed e) (slot : Slot) :
    (s.step t).1.table slot = s.table slot := by
  rw [table_step, builtFor?, built?_of_failed h, ite_self]
  rfl

/-- A table that is built for the slot of the table in use is the reply. -/
theorem builtFor?_current_iff :
    s.builtFor? .current t = some built ↔ t.slot? = some .current ∧ (s.step t).2 = .table built := by
  cases t with
  | parseTable text =>
    simp [builtFor?, Step.slot?, built?, step_parseTable, reply_replaceCurrent_eq_table_iff]
  | loadTable => simp [builtFor?, Step.slot?, built?, step_loadTable, reply_replaceCurrent_eq_table_iff]
  | _ => simp [builtFor?, Step.slot?]

/-- The reply to a reload that builds a table is the number of its routes. -/
theorem reply_eq_reloaded_iff :
    (s.step t).2 = .reloaded n ↔ ∃ built, s.builtFor? .watched t = some built ∧ built.size = n := by
  cases t with
  | reload => simp [builtFor?, Step.slot?, built?, step_reload, reply_replaceWatched_eq_reloaded_iff]
  | parseTable text => simp [builtFor?, Step.slot?, step_parseTable, reply_replaceCurrent_ne_reloaded]
  | loadTable => simp [builtFor?, Step.slot?, step_loadTable, reply_replaceCurrent_ne_reloaded]
  | get p => simp [builtFor?, Step.slot?, step_get, get, Reply.ofAccess_ne_reloaded]
  | getClone p => simp [builtFor?, Step.slot?, step_getClone, get, Reply.ofAccess_ne_reloaded]
  | loadConfig =>
    cases hresult : RoutePatterns.loadConfig s.content <;>
      simp [builtFor?, Step.slot?, step_loadConfig, hresult]
  | generate name params =>
    cases hfind : s.current.get? name <;> simp [builtFor?, Step.slot?, step_generate, generate, hfind]
  | _ => simp [builtFor?, Step.slot?, step, stepThrough]

/-! ### A run -/

/-- **A slot holds the table that was built for it last.** -/
theorem table_run (s : Session) (slot : Slot) (steps : List Step) :
    (s.run steps).table slot = (s.builtIn slot steps).getLastD (s.table slot) := by
  induction steps generalizing s with
  | nil => rfl
  | cons t steps ih =>
    have hrest := ih (s.step t).1
    rw [table_step] at hrest
    rw [builtIn]
    refine hrest.trans ?_
    -- The first step decides only what is left if no later one builds a table.
    cases s.builtFor? slot t with
    | none => rfl
    | some built => exact (List.getLastD_cons ..).symm

/-! ### Texts and files -/

/-- A table is loaded from a file as from the text that the file holds. -/
theorem loadTable_content (hcache : s'.cache = s.cache) (hfile : s'.file = some text.toUTF8) :
    RoutePatterns.loadTable s'.content s'.cache = RoutePatterns.parseTable text s.cache := by
  have hcontent : s'.content = .ok text.toUTF8 := by rw [content, hfile]
  rw [hcontent, hcache, loadTable_toUTF8]

/-- Two steps load a table alike: both build the same one, or both fail for the same reason, and they leave
the same cache. -/
structure LoadsAlike (s : Session) (t : Step) (s' : Session) (t' : Step) : Prop where
  built? : s.built? t = s'.built? t'
  failed_iff : ∀ e, (s.step t).2 = .failed e ↔ (s'.step t').2 = .failed e
  cache : (s.step t).1.cache = (s'.step t').1.cache

theorem loadsAlike_loadTable (hcache : s'.cache = s.cache) (hfile : s'.file = some text.toUTF8) :
    LoadsAlike s (.parseTable text) s' .loadTable := by
  have hload := loadTable_content hcache hfile
  constructor
  · simp only [Session.built?, hload]
  · intro e
    simp only [step_parseTable, step_loadTable, hload, reply_replaceCurrent_eq_failed_iff]
  · simp only [step_parseTable, step_loadTable, hload, replaceCurrent_cache]

theorem loadsAlike_reload (hcache : s'.cache = s.cache) (hfile : s'.file = some text.toUTF8) :
    LoadsAlike s (.parseTable text) s' .reload := by
  have hload := loadTable_content hcache hfile
  constructor
  · simp only [Session.built?, hload]
  · intro e
    simp only [step_parseTable, step_reload, hload, reply_replaceCurrent_eq_failed_iff,
      reply_replaceWatched_eq_failed_iff]
  · simp only [step_parseTable, step_reload, hload, replaceCurrent_cache, replaceWatched_cache]

/-- What steps from a state do to the tables. -/
structure AllOrNothing (s : Session) : Prop where
  /-- A slot gets the table that a step builds for it. -/
  of_built : ∀ t slot built, s.builtFor? slot t = some built → (s.step t).1.table slot = built
  /-- A step that fails leaves both tables as they are. -/
  of_failed : ∀ t e, (s.step t).2 = .failed e → ∀ slot, (s.step t).1.table slot = s.table slot
  /-- A step leaves every table as it is that it does not load: a reload the current one, a load of the
  current one the watched one, and a clear both. -/
  of_ne : ∀ t slot, t.slot? ≠ some slot → (s.step t).1.table slot = s.table slot
  /-- A table is built for the current slot exactly if the reply shows it. -/
  current_iff : ∀ t built,
    s.builtFor? .current t = some built ↔ t.slot? = some .current ∧ (s.step t).2 = .table built
  /-- A table is built for the watched slot exactly if the reply is the number of its routes. -/
  watched_iff : ∀ t n,
    (s.step t).2 = .reloaded n ↔ ∃ built, s.builtFor? .watched t = some built ∧ built.size = n
  /-- A text is loaded like a file that holds it, for either slot. -/
  alike : ∀ s' text, s'.cache = s.cache → s'.file = some (String.toUTF8 text) →
    LoadsAlike s (.parseTable text) s' .loadTable ∧ LoadsAlike s (.parseTable text) s' .reload

/-- **Tables are loaded as a whole or not at all.** After any run each slot holds the table that was built
for it last, or none if there was none yet. -/
theorem tables_all_or_nothing (steps : List Step) :
    (∀ slot, (start.run steps).table slot = (start.builtIn slot steps).getLastD .empty) ∧
      AllOrNothing (start.run steps) := by
  constructor
  · intro slot
    have hstart : start.table slot = .empty := by cases slot <;> rfl
    rw [table_run, hstart]
  · exact
      { of_built := fun _ _ _ hbuilt => table_step_of_built hbuilt
        of_failed := fun _ _ hfailed => table_step_of_failed hfailed
        of_ne := fun _ _ hne => table_step_of_ne hne
        current_iff := fun _ _ => builtFor?_current_iff
        watched_iff := fun _ _ => reply_eq_reloaded_iff
        alike := fun _ _ hcache hfile =>
          ⟨loadsAlike_loadTable hcache hfile, loadsAlike_reload hcache hfile⟩ }

/-- A text that is no configuration leaves the table that was built before it. -/
example :
    let home := "[[routes]]\nname = \"home\"\npath = \"/\""
    (start.run [.parseTable home, .parseTable "[[routes"]).current.size = 1 := by
  decide +kernel

end Session

end RoutePatterns
