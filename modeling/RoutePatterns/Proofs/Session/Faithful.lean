import RoutePatterns.Proofs.Session.Tables
import RoutePatterns.Proofs.Table.Faithful

/-!
# The tables of a session and their configurations

A step that builds a table for a slot has read a configuration for it (`Session.ofConfig_of_built?`), and the
table is faithful to that configuration. So in every state of a session each slot holds a table that is
faithful to the last configuration which was accepted for the slot (`Session.faithful_run`).
-/

namespace RoutePatterns

namespace Session

variable {s : Session} {t : Step} {slot : Slot} {built : Table} {config : Config}

/-- The configuration that a step reads to build a table of it. -/
def config? (s : Session) : Step → Option Config
  | .parseTable text => (parseConfig text).toOption
  | .loadTable | .reload => (RoutePatterns.loadConfig s.content).toOption
  | _ => none

/-- The configuration that a step accepts for a slot: it builds a table of it there. -/
def acceptedFor? (s : Session) (slot : Slot) (t : Step) : Option Config :=
  if (s.builtFor? slot t).isSome then s.config? t else none

/-- The configurations that a run accepts for a slot, in order. -/
def acceptedIn (s : Session) (slot : Slot) : List Step → List Config
  | [] => []
  | t :: steps => (s.acceptedFor? slot t).toList ++ (s.step t).1.acceptedIn slot steps

/-- A table that a step builds is the table of the configuration that the step reads. -/
theorem ofConfig_of_built? (h : s.built? t = some built) :
    ∃ config, s.config? t = some config ∧ (Table.ofConfig config s.cache).result = .ok built := by
  have hload : ∀ read : Except LoadError Config, (buildTable read s.cache).result.toOption = some built →
      ∃ config, read.toOption = some config ∧ (Table.ofConfig config s.cache).result = .ok built := by
    intro read hread
    obtain ⟨config, rfl, hconfig⟩ := buildTable_result_eq_ok_iff.1 (eq_ok_of_toOption hread)
    exact ⟨config, rfl, hconfig⟩
  cases t with
  | parseTable text => exact hload _ h
  | loadTable => exact hload _ h
  | reload => exact hload _ h
  | _ => exact absurd h (by simp [built?])

theorem acceptedFor?_of_built (h : s.builtFor? slot t = some built) (hconfig : s.config? t = some config) :
    s.acceptedFor? slot t = some config := by
  simp [acceptedFor?, h, hconfig]

/-- A step leaves each slot with a table that is faithful: to the configuration that the step accepts for the
slot, or else to the one from before. -/
theorem faithful_step (hsound : s.cache.Sound) (h : (s.table slot).Faithful config) (t : Step) :
    ((s.step t).1.table slot).Faithful ((s.acceptedFor? slot t).getD config) := by
  rw [table_step]
  cases hbuilt : s.builtFor? slot t with
  | none => simpa [acceptedFor?, hbuilt] using h
  | some built =>
    obtain ⟨accepted, hconfig, hresult⟩ := ofConfig_of_built? (built?_of_builtFor? hbuilt)
    rw [acceptedFor?_of_built hbuilt hconfig]
    exact Table.faithful_of_ofConfig hsound hresult

/-- **A slot holds a table that is faithful to the configuration accepted for it last.** -/
theorem faithful_run (hsound : s.cache.Sound) (h : (s.table slot).Faithful config) (steps : List Step) :
    ((s.run steps).table slot).Faithful ((s.acceptedIn slot steps).getLastD config) := by
  induction steps generalizing s config with
  | nil => exact h
  | cons t steps ih =>
    have hrest := ih (sound_step hsound t) (faithful_step hsound h t)
    rw [run_cons, acceptedIn]
    -- The first configuration counts only if no later one is accepted.
    cases haccepted : s.acceptedFor? slot t with
    | none => simpa [haccepted] using hrest
    | some accepted =>
      rw [haccepted] at hrest
      rw [Option.toList_some, List.singleton_append, List.getLastD_cons]
      exact hrest

/-- **Tables are faithful to their configurations.** Whatever was done before, a table that is built of a
configuration is faithful to it; and after any run each slot holds a table that is faithful to the
configuration accepted for it last, or to the one without routes if there was none. -/
theorem tables_faithful (steps : List Step) :
    (∀ config built, (Table.ofConfig config (start.run steps).cache).result = .ok built →
        built.Faithful config) ∧
      ∀ slot, ((start.run steps).table slot).Faithful ((start.acceptedIn slot steps).getLastD {}) := by
  constructor
  · intro config built hresult
    exact Table.faithful_of_ofConfig (sound_run steps) hresult
  · intro slot
    refine faithful_run sound_start ?_ steps
    cases slot <;> exact Table.faithful_empty

/-- Two routes, of which the second one has a host. -/
def site : Config where
  routes := [
    ⟨"home", none, "/", .empty⟩,
    ⟨"blog", some "example.com", "/blog/{slug}", .empty⟩]

/-- A table is loaded from a file after its only pattern was got. -/
def homeSteps : List Step :=
  [.get ⟨"", "/", .empty⟩, .write "[[routes]]\nname = \"home\"\npath = \"/\"".toUTF8, .reload]

/-- A table was accepted for the watched slot, and after that the table of `site` can be built. -/
theorem tables_faithful_site :
    (∃ config, start.acceptedIn .watched homeSteps = [config] ∧
        (start.run homeSteps).watched.Faithful config) ∧
      ∃ built, (Table.ofConfig site (start.run homeSteps).cache).result = .ok built ∧ built.Faithful site := by
  constructor
  · obtain ⟨config, haccepted⟩ := List.length_eq_one_iff.1
      (by decide +kernel : (start.acceptedIn .watched homeSteps).length = 1)
    have hfaithful := (tables_faithful homeSteps).2 .watched
    rw [haccepted] at hfaithful
    exact ⟨config, haccepted, hfaithful⟩
  · obtain ⟨built, hbuilt⟩ := Option.isSome_iff_exists.1
      (by decide +kernel : (Table.ofConfig site (start.run homeSteps).cache).result.toOption.isSome = true)
    have hresult := eq_ok_of_toOption hbuilt
    exact ⟨built, hresult, (tables_faithful homeSteps).1 site built hresult⟩

end Session

end RoutePatterns
