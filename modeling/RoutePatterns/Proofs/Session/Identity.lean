import Mathlib.Data.List.Induction
import RoutePatterns.Proofs.Session.Tables

/-!
# Which artifacts are the same

A step gives an artifact for a pattern if its reply shows it, or if the artifact belongs to a table that the
step builds (`Session.Given`). The cache holds the artifact after that step (`Session.find?_of_given`) and
goes on doing so until it is cleared (`Session.find?_of_unbroken`); the artifacts that are stored later are
new (`Session.serial_lt_of_clear`). So two artifacts of a run are the very same one exactly if their patterns
are equal and the cache was not cleared between the steps that gave them (`Session.serial_eq_iff`). What this
means for tables is part of `Session.same_artifacts`. The steps of a run are counted from zero.
-/

namespace RoutePatterns

namespace Session

variable {s : Session} {t : Step} {steps later : List Step} {i j k : Nat} {p q : Pattern} {a b : Artifact}
  {built built' : Table} {slot : Slot} {r r' : NamedRoute}

/-- A step gives an artifact for a pattern. -/
inductive Given (s : Session) : Step → Pattern → Artifact → Prop where
  /-- The artifact that the reply shows. -/
  | get {p : Pattern} {a : Artifact} (hreply : (s.step (.get p)).2 = .artifact a) : Given s (.get p) p a
  /-- The artifact that is got through a clone. -/
  | getClone {p : Pattern} {a : Artifact} (hreply : (s.step (.getClone p)).2 = .artifact a) :
    Given s (.getClone p) p a
  /-- The artifact of a route of the table that the step builds. -/
  | built {t : Step} {built : Table} {r : NamedRoute} (hbuilt : s.built? t = some built)
      (hr : r ∈ built.routes) : Given s t r.pattern r.artifact

/-- The state before the step at an index of a run. -/
def before (steps : List Step) (i : Nat) : Session := start.run (steps.take i)

/-- The step at an index of a run gives an artifact for a pattern. -/
def Gives (steps : List Step) (i : Nat) (p : Pattern) (a : Artifact) : Prop :=
  ∃ t, steps[i]? = some t ∧ (before steps i).Given t p a

/-- The step at an index of a run asks the cache for a pattern. -/
def Asks (steps : List Step) (i : Nat) (p : Pattern) : Prop :=
  ∃ t, steps[i]? = some t ∧ p ∈ (before steps i).requests t

/-- The step at an index of a run builds a table. -/
def Builds (steps : List Step) (i : Nat) (built : Table) : Prop :=
  ∃ t, steps[i]? = some t ∧ (before steps i).built? t = some built

/-- The cache is not cleared between the steps at two indices of a run. -/
def Unbroken (steps : List Step) (i j : Nat) : Prop := ∀ k, i < k → k < j → steps[k]? ≠ some .clear

/-! ### One step -/

/-- The cache holds the artifacts of a table after the step that builds it. -/
theorem find?_of_built (h : s.built? t = some built) (hr : r ∈ built.routes) :
    (s.step t).1.cache.find? r.pattern = some r.artifact := by
  cases t with
  | parseTable text =>
    rw [step_parseTable, replaceCurrent_cache]
    exact find?_of_buildTable (eq_ok_of_toOption h) r hr
  | loadTable =>
    rw [step_loadTable, replaceCurrent_cache]
    exact find?_of_buildTable (eq_ok_of_toOption h) r hr
  | reload =>
    rw [step_reload, replaceWatched_cache]
    exact find?_of_buildTable (eq_ok_of_toOption h) r hr
  | _ => exact absurd h (by simp [built?])

/-- What is got through the handle is in the cache afterwards. -/
theorem find?_of_get (h : (s.get s.handle p).2 = .artifact a) :
    (s.get s.handle p).1.cache.find? p = some a := by
  rw [cache_get]
  exact Cache.find?_getOrCompile (Reply.ofAccess_eq_artifact_iff.1 h)

/-- After a step that gives an artifact, the cache holds it. -/
theorem find?_of_given (h : s.Given t p a) : (s.step t).1.cache.find? p = some a := by
  cases h with
  | built hbuilt hr => exact find?_of_built hbuilt hr
  | get hreply => exact find?_of_get hreply
  | getClone hreply => exact find?_of_get hreply

theorem ne_clear_of_given (h : s.Given t p a) : t ≠ .clear := by
  rintro rfl
  cases h with
  | built hbuilt _ => exact absurd hbuilt (by simp [built?])

/-! ### The states of a run -/

theorem before_succ (h : steps[i]? = some t) : before steps (i + 1) = ((before steps i).step t).1 := by
  rw [before, List.take_add_one, h, run_append]
  rfl

theorem before_succ_of_none (h : steps[i]? = none) : before steps (i + 1) = before steps i := by
  rw [before, List.take_add_one, h, Option.toList_none, List.append_nil]
  rfl

theorem sound_before (steps : List Step) (i : Nat) : (before steps i).cache.Sound := sound_run _

/-- What the storing of new artifacts keeps, and every clear among the steps, holds from one step of a run to
a later one. -/
theorem before_of_lasting {P : Cache → Prop} (hP : Cache.Lasting P) (hij : i ≤ j)
    (hclear : ∀ k, i ≤ k → k < j → steps[k]? = some .clear → ∀ c, P c → P c.clear)
    (h : P (before steps i).cache) : P (before steps j).cache := by
  -- The induction is on the later index; each step in between either clears the cache or stores artifacts.
  induction hij with
  | refl => exact h
  | @step j hij ih =>
    have hj : P (before steps j).cache := ih fun k hik hkj => hclear k hik (Nat.lt_succ_of_lt hkj)
    cases ht : steps[j]? with
    | none =>
      rw [before_succ_of_none ht]
      exact hj
    | some t =>
      rw [before_succ ht]
      by_cases hne : t = .clear
      · subst hne
        rw [cache_step_clear]
        exact hclear j hij (Nat.lt_succ_self j) ht _ hj
      · exact step_of_lasting hP hne hj

theorem find?_of_gives (h : Gives steps i p a) : (before steps (i + 1)).cache.find? p = some a := by
  obtain ⟨t, ht, hgiven⟩ := h
  rw [before_succ ht]
  exact find?_of_given hgiven

theorem ne_clear_of_gives (h : Gives steps i p a) : steps[i]? ≠ some .clear := by
  obtain ⟨t, ht, hgiven⟩ := h
  rw [ht]
  simpa using ne_clear_of_given hgiven

/-- The cache holds an artifact until it is cleared. -/
theorem find?_of_unbroken (hij : i ≤ j) (hunbroken : Unbroken steps i j) (hj : steps[j]? ≠ some .clear)
    (h : (before steps (i + 1)).cache.find? p = some a) :
    (before steps (j + 1)).cache.find? p = some a := by
  refine before_of_lasting (Cache.lasting_find? p a) (Nat.succ_le_succ hij) ?_ h
  intro k hik hkj hk
  -- The last step is not between the two, so that it clears nothing is known by itself.
  obtain rfl | hlt := Nat.eq_or_lt_of_le (Nat.le_of_lt_succ hkj)
  · exact absurd hk hj
  · exact absurd hk (hunbroken k hik hlt)

/-- Artifacts that are given after a clear are newer than those that were given before it. -/
theorem serial_lt_of_clear (ha : Gives steps i p a) (hb : Gives steps j q b) (hik : i < k) (hkj : k < j)
    (hk : steps[k]? = some .clear) : a.serial < b.serial := by
  -- The serial number that is free when the cache is cleared is above the one and not above the other.
  have hold : a.serial < (before steps (i + 1)).cache.nextSerial :=
    (sound_before steps (i + 1)).serial_lt _ (Cache.mem_entries_of_find? (find?_of_gives ha))
  have hgrown : (before steps (i + 1)).cache.nextSerial ≤ (before steps k).cache.nextSerial :=
    before_of_lasting (Cache.lasting_le_nextSerial _) hik (fun _ _ _ _ _ hle => hle) (Nat.le_refl _)
  have hcleared : Cache.Since (before steps k).cache.nextSerial (before steps (k + 1)).cache := by
    rw [before_succ hk, cache_step_clear]
    exact Cache.since_clear _
  have hsince : Cache.Since (before steps k).cache.nextSerial (before steps (j + 1)).cache := by
    refine before_of_lasting (Cache.lasting_since _) (by omega) ?_ hcleared
    intro _ _ _ _ c hc
    exact hc.clear
  have hnew := hsince.le_serial _ (Cache.mem_entries_of_find? (find?_of_gives hb))
  calc a.serial < (before steps (i + 1)).cache.nextSerial := hold
    _ ≤ (before steps k).cache.nextSerial := hgrown
    _ ≤ b.serial := hnew

theorem eq_of_unbroken (hij : i ≤ j) (hunbroken : Unbroken steps i j) (ha : Gives steps i p a)
    (hb : Gives steps j p b) : a = b := by
  have hheld := find?_of_unbroken hij hunbroken (ne_clear_of_gives hb) (find?_of_gives ha)
  rw [find?_of_gives hb] at hheld
  exact (Option.some.inj hheld).symm

/-- **Two artifacts are the very same one exactly if their patterns are equal and the cache was not cleared
between the steps that gave them.** -/
theorem serial_eq_iff (hij : i ≤ j) (ha : Gives steps i p a) (hb : Gives steps j q b) :
    a.serial = b.serial ↔ p = q ∧ Unbroken steps i j := by
  constructor
  · intro heq
    have hunbroken : Unbroken steps i j := by
      intro k hik hkj hk
      exact absurd heq (Nat.ne_of_lt (serial_lt_of_clear ha hb hik hkj hk))
    have hheld := find?_of_unbroken hij hunbroken (ne_clear_of_gives hb) (find?_of_gives ha)
    exact ⟨(sound_before steps (j + 1)).eq_of_serial_eq hheld (find?_of_gives hb) heq, hunbroken⟩
  · rintro ⟨rfl, hunbroken⟩
    rw [eq_of_unbroken hij hunbroken ha hb]

theorem eq_of_serial_eq (ha : Gives steps i p a) (hb : Gives steps j q b) (heq : a.serial = b.serial) :
    a = b := by
  obtain hij | hji := Nat.le_total i j
  · obtain ⟨rfl, hunbroken⟩ := (serial_eq_iff hij ha hb).1 heq
    exact eq_of_unbroken hij hunbroken ha hb
  · obtain ⟨rfl, hunbroken⟩ := (serial_eq_iff hji hb ha).1 heq.symm
    exact (eq_of_unbroken hji hunbroken hb ha).symm

/-! ### Tables -/

theorem gives_of_builds (h : Builds steps i built) (hr : r ∈ built.routes) :
    Gives steps i r.pattern r.artifact := by
  obtain ⟨t, ht, hbuilt⟩ := h
  exact ⟨t, ht, .built hbuilt hr⟩

theorem before_append (hi : i ≤ steps.length) : before (steps ++ later) i = before steps i := by
  rw [before, List.take_append_of_le_length hi, before]

theorem Gives.append (h : Gives steps i p a) (later : List Step) : Gives (steps ++ later) i p a := by
  obtain ⟨t, ht, hgiven⟩ := h
  obtain ⟨hi, -⟩ := List.getElem?_eq_some_iff.1 ht
  refine ⟨t, ?_, ?_⟩
  · rw [List.getElem?_append_left hi, ht]
  · rw [before_append (Nat.le_of_lt hi)]
    exact hgiven

theorem builds_concat (h : (start.run steps).built? t = some built) :
    Builds (steps ++ [t]) steps.length built := by
  refine ⟨t, by simp, ?_⟩
  rw [before_append (Nat.le_refl _), before, List.take_length]
  exact h

/-- The artifacts of the tables were given by steps of the run. -/
theorem exists_gives (slot : Slot) (steps : List Step) :
    ∀ r ∈ ((start.run steps).table slot).routes, ∃ i, Gives steps i r.pattern r.artifact := by
  induction steps using List.reverseRecOn with
  | nil =>
    intro r hr
    cases slot <;> exact absurd hr List.not_mem_nil
  | append_singleton steps t ih =>
    intro r hr
    rw [run_append, run_cons, run_nil, table_step] at hr
    -- The last step gives the artifacts of a slot if it builds a table for it; else the slot is as before.
    cases hbuilt : (start.run steps).builtFor? slot t with
    | none =>
      rw [hbuilt] at hr
      obtain ⟨i, hgives⟩ := ih r hr
      exact ⟨i, hgives.append [t]⟩
    | some built =>
      rw [hbuilt] at hr
      exact ⟨steps.length, gives_of_builds (builds_concat (built?_of_builtFor? hbuilt)) hr⟩

/-- After a step that asks the cache for a pattern which is not rejected, the cache holds an artifact. -/
theorem exists_find?_of_asks (h : Asks steps i p) {route : Route} (hcompile : compile p = .ok route) :
    ∃ a, (before steps (i + 1)).cache.find? p = some a := by
  obtain ⟨t, ht, hp⟩ := h
  have hne : t ≠ .clear := by
    rintro rfl
    exact absurd hp List.not_mem_nil
  rw [before_succ ht, (step_of_ne_clear hne).1]
  exact Cache.exists_find?_getAll hp hcompile

/-- What was stored when a pattern was asked for is given for it until the cache is cleared. -/
theorem find?_of_asks (hij : i ≤ j) (hunbroken : Unbroken steps i j) (hasks : Asks steps i p)
    (hb : Gives steps j p b) : (before steps (i + 1)).cache.find? p = some b := by
  have hentry := Cache.mem_entries_of_find? (find?_of_gives hb)
  have hcompile := (sound_before steps (j + 1)).compile_eq p b hentry
  obtain ⟨a, ha⟩ := exists_find?_of_asks hasks hcompile
  have hheld := find?_of_unbroken hij hunbroken (ne_clear_of_gives hb) ha
  rw [find?_of_gives hb] at hheld
  rw [ha, hheld]

/-- Which artifacts of a run are the same. -/
structure ArtifactsFollowPatterns (steps : List Step) : Prop where
  /-- Two artifacts are the very same one exactly if their patterns are equal and the cache was not cleared
  between the steps that gave them. -/
  serial_eq_iff : ∀ i j p q a b, i ≤ j → Gives steps i p a → Gives steps j q b →
    (a.serial = b.serial ↔ p = q ∧ Unbroken steps i j)
  /-- Artifacts with the same number do not differ in anything else. -/
  eq_of_serial_eq : ∀ i j p q a b, Gives steps i p a → Gives steps j q b → a.serial = b.serial → a = b
  /-- The artifacts of the tables were given by the steps of the run. -/
  exists_gives : ∀ slot, ∀ r ∈ ((start.run steps).table slot).routes, ∃ i, Gives steps i r.pattern r.artifact
  /-- A table keeps its artifacts when the cache is cleared. -/
  table_clear : ∀ slot, ((start.run steps).step .clear).1.table slot = (start.run steps).table slot
  /-- A table that is built anew, as by a reload, has the artifacts of the earlier one for the routes whose
  patterns did not change. -/
  unchanged : ∀ i j built built', i ≤ j → Unbroken steps i j → Builds steps i built → Builds steps j built' →
    ∀ r ∈ built.routes, ∀ r' ∈ built'.routes, r.pattern = r'.pattern → r.artifact = r'.artifact
  /-- What was stored when a pattern was asked for is used from then on, also if it was asked for by a table
  that was rejected. -/
  reused : ∀ i j p b, i ≤ j → Unbroken steps i j → Asks steps i p → Gives steps j p b →
    (before steps (i + 1)).cache.find? p = some b

/-- **Artifacts follow the patterns and the clears of the cache.** -/
theorem same_artifacts (steps : List Step) : ArtifactsFollowPatterns steps where
  serial_eq_iff _ _ _ _ _ _ hij ha hb := serial_eq_iff hij ha hb
  eq_of_serial_eq _ _ _ _ _ _ ha hb heq := eq_of_serial_eq ha hb heq
  exists_gives slot := exists_gives slot steps
  table_clear _ := table_step_of_ne (by simp [Step.slot?])
  unchanged := by
    intro i j built built' hij hunbroken hbuilt hbuilt' r hr r' hr' heq
    have hgives := gives_of_builds hbuilt hr
    rw [heq] at hgives
    exact eq_of_unbroken hij hunbroken hgives (gives_of_builds hbuilt' hr')
  reused _ _ _ _ hij hunbroken hasks hb := find?_of_asks hij hunbroken hasks hb

/-- A table has the artifact that its pattern was given before, through a clone. It keeps that one when the cache is cleared,
and the table of a reload has a new one. -/
example :
    let blog := "[[routes]]\nname = \"blog\"\npath = \"/blog/{slug}\""
    let s := start.run
      [.getClone ⟨"", "/blog/{slug}", .empty⟩, .parseTable blog, .clear, .write blog.toUTF8, .reload]
    s.current.routes.map (fun r => r.artifact.serial) = [0] ∧
      s.watched.routes.map (fun r => r.artifact.serial) = [1] := by
  decide +kernel

end Session

end RoutePatterns
