import RoutePatterns.Proofs.Session.Requests

/-!
# Sessions through clones

A session never changes its handle (`Session.handle_step`), and a clone of a handle reads and writes the same cache.
So it makes no difference through which clones the steps of a run are taken (`Session.runThrough_of_clones`), and
caches of other handles are not touched by any of them (`Session.read_step_of_ne`).
-/

namespace RoutePatterns

namespace Session

variable {s : Session} {t : Step} {k : CacheHandle}

/-- The state after several steps, each of which is taken through a handle of its own. -/
def runThrough (s : Session) (steps : List (CacheHandle × Step)) : Session :=
  steps.foldl (fun s t => (s.stepThrough t.1 t.2).1) s

@[simp] theorem handle_replaceCurrent (s : Session) (h : CacheHandle) (load : TableLoad) :
    (s.replaceCurrent h load).1.handle = s.handle := by
  rw [replaceCurrent]
  split <;> rfl

@[simp] theorem handle_replaceWatched (s : Session) (h : CacheHandle) (load : TableLoad) :
    (s.replaceWatched h load).1.handle = s.handle := by
  rw [replaceWatched]
  split <;> rfl

/-- A session keeps its handle. -/
theorem handle_step (s : Session) (t : Step) : (s.step t).1.handle = s.handle := by
  cases t with
  | parseTable text => exact s.handle_replaceCurrent _ _
  | loadTable => exact s.handle_replaceCurrent _ _
  | reload => exact s.handle_replaceWatched _ _
  | loadConfig =>
    rw [step_loadConfig]
    split <;> rfl
  | generate name params =>
    rw [step_generate, generate]
    split <;> rfl
  | get p | getClone p | clear | write bytes | remove | find name | active => rfl

/-- A step is taken through a clone as through the handle itself: the reply is the same, and so is all that is
left behind. -/
theorem stepThrough_of_clones (hk : s.handle.Clones k) (t : Step) : s.stepThrough k t = s.step t := by
  rw [hk.eq, step]

/-- **It makes no difference through which clones a session uses its cache**, and every step through any of them
can be followed by steps through any others. -/
theorem runThrough_of_clones {steps : List (CacheHandle × Step)} (h : ∀ t ∈ steps, s.handle.Clones t.1) :
    s.runThrough steps = s.run (steps.map Prod.snd) := by
  induction steps generalizing s with
  | nil => rfl
  | cons t steps ih =>
    obtain ⟨ht, hsteps⟩ := List.forall_mem_cons.1 h
    rw [← s.handle_step t.2] at hsteps
    rw [List.map_cons, run_cons, ← ih hsteps, ← stepThrough_of_clones ht]
    rfl

/-- Loading a table through a handle touches no other cache. -/
theorem read_replaceCurrent_of_ne {h : CacheHandle} (hne : k ≠ h) (load : TableLoad) :
    (s.replaceCurrent h load).1.caches.read k = s.caches.read k := by
  rw [replaceCurrent]
  split <;> exact CacheStore.read_write_of_ne hne ..

theorem read_replaceWatched_of_ne {h : CacheHandle} (hne : k ≠ h) (load : TableLoad) :
    (s.replaceWatched h load).1.caches.read k = s.caches.read k := by
  rw [replaceWatched]
  split <;> exact CacheStore.read_write_of_ne hne ..

/-- A step touches no other cache than that of the session. -/
theorem read_step_of_ne (hne : k ≠ s.handle) (t : Step) : (s.step t).1.caches.read k = s.caches.read k := by
  cases t with
  | get p | getClone p | clear => exact CacheStore.read_write_of_ne hne ..
  | parseTable text => exact read_replaceCurrent_of_ne hne _
  | loadTable => exact read_replaceCurrent_of_ne hne _
  | reload => exact read_replaceWatched_of_ne hne _
  | loadConfig =>
    rw [step_loadConfig]
    split <;> rfl
  | generate name params =>
    rw [step_generate, generate]
    split <;> rfl
  | write bytes | remove | find name | active => rfl

end Session

end RoutePatterns
