import Mathlib.Logic.Function.Basic
import RoutePatterns.Proofs.Cache.Growth
import RoutePatterns.Proofs.Session.Requests

/-!
# Racing calls

Several calls may ask one cache for their patterns at the same time. Each takes two atomic steps on the entries
that all of them share (`Stage.advance`): it looks its pattern up, and if there is nothing and the pattern
compiles, it stores the artifact that it has made, unless the pattern has one by then (`Cache.keepFirst`).
Between the two steps other calls may take theirs, so several artifacts of one pattern may be made, of which one
is stored. In a `Race`, any number of calls take their steps in the order of a schedule, which is arbitrary. Calls
that have clones of one handle race on one cache (`RaceThrough.seenFrom_run`).

A step keeps the cache sound, and all calls true to it (`Race.Valid.step`); by induction every schedule does
(`Race.Valid.run`). It follows that racing calls share the artifact that was stored first (`Race.shared_run`).
Two steps of a call in a row are a request (`Race.run_uninterrupted`).
-/

namespace RoutePatterns

namespace Cache

/-- Makes an artifact of a route, which gets a number, but does not store it. -/
def make (c : Cache) (r : Route) : Artifact × Cache :=
  (⟨c.nextSerial, r⟩, { c with nextSerial := c.nextSerial + 1 })

/-- Stores an artifact under a pattern, unless the pattern has one already, and gives the artifact that the
pattern has in the end. -/
def keepFirst (c : Cache) (p : Pattern) (a : Artifact) : Artifact × Cache :=
  match c.find? p with
  | some b => (b, c)
  | none => (a, { c with entries := c.entries ++ [(p, a)] })

end Cache

/-- How far a call has come. -/
inductive Stage where
  /-- The call has not looked its pattern up. -/
  | waiting
  /-- The call has not found its pattern, and has made an artifact. -/
  | holding (a : Artifact)
  /-- The call has returned. -/
  | returned (result : Except PatternError Artifact)

/-- The next atomic step of a call for a pattern. A call compiles its pattern between its two steps; since this
touches nothing that is shared, it is taken for a part of the first. -/
def Stage.advance (c : Cache) (p : Pattern) : Stage → Stage × Cache
  | waiting =>
    match c.find? p with
    | some a => (returned (.ok a), c)
    | none =>
      match compile p with
      | .error e => (returned (.error e), c)
      | .ok r => (holding (c.make r).1, (c.make r).2)
  | holding a => (returned (.ok (c.keepFirst p a).1), (c.keepFirst p a).2)
  | returned result => (returned result, c)

/-- A cache, and how far each of several calls has come. -/
structure Race (ι : Type*) where
  cache : Cache
  stage : ι → Stage

namespace Race

variable {ι : Type*} [DecidableEq ι]

/-- No call has taken a step. -/
def start (c : Cache) : Race ι := ⟨c, fun _ => .waiting⟩

/-- One of the calls for `patterns` takes its next step. -/
def step (patterns : ι → Pattern) (s : Race ι) (i : ι) : Race ι where
  cache := ((s.stage i).advance s.cache (patterns i)).2
  stage := Function.update s.stage i ((s.stage i).advance s.cache (patterns i)).1

/-- The calls take their steps in the order of a schedule. -/
def run (patterns : ι → Pattern) (s : Race ι) (schedule : List ι) : Race ι := schedule.foldl (step patterns) s

end Race

/-- Where caches are kept, and how far each of several calls has come that have handles of their own. -/
structure RaceThrough (ι : Type*) where
  caches : CacheStore
  stage : ι → Stage

namespace RaceThrough

variable {ι : Type*} [DecidableEq ι]

/-- No call has taken a step. -/
def start (m : CacheStore) : RaceThrough ι := ⟨m, fun _ => .waiting⟩

/-- The race as it is seen by those who have a handle. -/
def seenFrom (s : RaceThrough ι) (h : CacheHandle) : Race ι := ⟨s.caches.read h, s.stage⟩

/-- One of the calls takes its next step, through its handle. -/
def step (handles : ι → CacheHandle) (patterns : ι → Pattern) (s : RaceThrough ι) (i : ι) : RaceThrough ι where
  caches := s.caches.write (handles i)
    ((s.stage i).advance (s.caches.read (handles i)) (patterns i)).2
  stage := Function.update s.stage i ((s.stage i).advance (s.caches.read (handles i)) (patterns i)).1

/-- The calls take their steps in the order of a schedule, each through its handle. -/
def run (handles : ι → CacheHandle) (patterns : ι → Pattern) (s : RaceThrough ι) (schedule : List ι) :
    RaceThrough ι := schedule.foldl (step handles patterns) s

variable {handles : ι → CacheHandle} {h : CacheHandle}

theorem seenFrom_step (hclones : ∀ i, h.Clones (handles i)) (patterns : ι → Pattern) (s : RaceThrough ι) (i : ι) :
    (s.step handles patterns i).seenFrom h = (s.seenFrom h).step patterns i := by
  rw [step, (hclones i).eq, RaceThrough.seenFrom, CacheStore.read_write_self]
  rfl

/-- **Calls through clones race on one cache.** -/
theorem seenFrom_run (hclones : ∀ i, h.Clones (handles i)) (patterns : ι → Pattern) (s : RaceThrough ι)
    (schedule : List ι) : (s.run handles patterns schedule).seenFrom h = (s.seenFrom h).run patterns schedule := by
  induction schedule generalizing s with
  | nil => rfl
  | cons i schedule ih =>
    rw [run, List.foldl_cons, ← run, ih, seenFrom_step hclones]
    rfl

end RaceThrough

variable {c c' : Cache} {p q : Pattern} {a b : Artifact} {r : Route} {e : PatternError} {t t' u : Stage}
  {result : Except PatternError Artifact}

/-! ### Making and storing -/

namespace Cache

theorem keepFirst_of_find? (h : c.find? p = some b) (a : Artifact) : c.keepFirst p a = (b, c) := by
  rw [keepFirst, h]

theorem keepFirst_of_find?_eq_none (h : c.find? p = none) (a : Artifact) :
    c.keepFirst p a = (a, { c with entries := c.entries ++ [(p, a)] }) := by
  rw [keepFirst, h]

/-- A route is stored by making an artifact of it and keeping it. -/
theorem insertIfAbsent_eq_keepFirst (h : c.find? p = none) (r : Route) :
    c.insertIfAbsent p r = (c.make r).2.keepFirst p (c.make r).1 := by
  have hmake : (c.make r).2.find? p = none := h
  rw [insertIfAbsent_of_find?_eq_none h, keepFirst_of_find?_eq_none hmake, make, store]

/-- An artifact that was made for a pattern and is not stored. -/
structure Unstored (c : Cache) (p : Pattern) (a : Artifact) : Prop where
  compile_eq : compile p = .ok a.route
  serial_lt : a.serial < c.nextSerial
  serial_ne : ∀ x ∈ c.entries, x.2.serial ≠ a.serial

theorem Sound.make (h : c.Sound) (r : Route) : (c.make r).2.Sound where
  compile_eq := h.compile_eq
  patterns_nodup := h.patterns_nodup
  serials_nodup := h.serials_nodup
  serial_lt x hx := Nat.lt_succ_of_lt (h.serial_lt x hx)

theorem Sound.unstored_make (h : c.Sound) (hcompile : compile p = .ok r) :
    (c.make r).2.Unstored p (c.make r).1 where
  compile_eq := hcompile
  serial_lt := Nat.lt_succ_self _
  serial_ne x hx := (h.serial_lt x hx).ne

theorem Unstored.make (h : c.Unstored p a) (r : Route) : (c.make r).2.Unstored p a :=
  ⟨h.compile_eq, Nat.lt_succ_of_lt h.serial_lt, h.serial_ne⟩

theorem Sound.keepFirst (h : c.Sound) (ha : c.Unstored p a) : (c.keepFirst p a).2.Sound := by
  cases hfind : c.find? p with
  | some b => rwa [keepFirst_of_find? hfind]
  | none =>
    rw [keepFirst_of_find?_eq_none hfind]
    exact h.append hfind ha.compile_eq ha.serial_ne (Nat.le_refl _) ha.serial_lt

/-- An artifact stays unstored while one with another number is stored. -/
theorem Unstored.keepFirst (h : c.Unstored q b) (hne : a.serial ≠ b.serial) (p : Pattern) :
    (c.keepFirst p a).2.Unstored q b := by
  cases hfind : c.find? p with
  | some d => rwa [keepFirst_of_find? hfind]
  | none =>
    rw [keepFirst_of_find?_eq_none hfind]
    refine ⟨h.compile_eq, h.serial_lt, fun x hx => ?_⟩
    obtain hx | hx := List.mem_append.1 hx
    · exact h.serial_ne x hx
    · obtain rfl := List.mem_singleton.1 hx
      exact hne

theorem grownBy_keepFirst (hcompile : compile p = .ok a.route) :
    GrownBy c (c.keepFirst p a).2 (if (c.find? p).isNone then [p] else []) := by
  cases hfind : c.find? p with
  | some b =>
    rw [keepFirst_of_find? hfind]
    exact .refl c
  | none =>
    rw [keepFirst_of_find?_eq_none hfind]
    exact ⟨[(p, a)], rfl, rfl, by simpa using hcompile⟩

theorem find?_keepFirst (c : Cache) (p : Pattern) (a : Artifact) :
    (c.keepFirst p a).2.find? p = some (c.keepFirst p a).1 := by
  cases hfind : c.find? p with
  | some b => rwa [keepFirst_of_find? hfind]
  | none =>
    rw [keepFirst_of_find?_eq_none hfind]
    rw [find?] at hfind ⊢
    simp [List.lookup_append, hfind]

end Cache

/-! ### One step of a call -/

namespace Stage

/-- What a call for a pattern has come to is true to the cache. -/
def Fits (c : Cache) (p : Pattern) : Stage → Prop
  | waiting => True
  | holding a => c.Unstored p a
  | returned (.ok a) => c.find? p = some a
  | returned (.error e) => compile p = .error e

/-- Two calls do not hold artifacts with the same number. -/
def Apart (t u : Stage) : Prop := ∀ a b, t = holding a → u = holding b → a.serial ≠ b.serial

theorem Apart.symm (h : Apart t u) : Apart u t := fun a b hu ht => (h b a ht hu).symm

/-- The number of steps that a call still takes. -/
def remaining : Stage → Nat
  | waiting => 2
  | holding _ => 1
  | returned _ => 0

/-- The steps of a call for a pattern, each with what it leaves: the stage and the cache. -/
inductive Advances (c : Cache) (p : Pattern) : Stage → Stage → Cache → Prop
  | hit {a : Artifact} (hfind : c.find? p = some a) : Advances c p waiting (returned (.ok a)) c
  | reject {e : PatternError} (hfind : c.find? p = none) (hcompile : compile p = .error e) :
    Advances c p waiting (returned (.error e)) c
  | make {r : Route} (hfind : c.find? p = none) (hcompile : compile p = .ok r) :
    Advances c p waiting (holding (c.make r).1) (c.make r).2
  | keep {a : Artifact} : Advances c p (holding a) (returned (.ok (c.keepFirst p a).1)) (c.keepFirst p a).2
  | stay {result : Except PatternError Artifact} : Advances c p (returned result) (returned result) c

theorem advances_advance (c : Cache) (p : Pattern) (t : Stage) :
    Advances c p t (t.advance c p).1 (t.advance c p).2 := by
  cases t with
  | holding a => exact .keep
  | returned result => exact .stay
  | waiting =>
    cases hfind : c.find? p with
    | some a =>
      rw [advance, hfind]
      exact .hit hfind
    | none =>
      cases hcompile : compile p with
      | error e =>
        rw [advance, hfind, hcompile]
        exact .reject hfind hcompile
      | ok r =>
        rw [advance, hfind, hcompile]
        exact .make hfind hcompile

/-- Two steps come to what a request comes to. -/
theorem advance_advance (c : Cache) (p : Pattern) :
    (waiting.advance c p).1.advance (waiting.advance c p).2 p =
      (returned (c.getOrCompile p).1.result, (c.getOrCompile p).2) := by
  obtain ⟨a, hfind, heq⟩ | ⟨e, hfind, hcompile, heq⟩ | ⟨r, hfind, hcompile, heq⟩ := c.getOrCompile_cases p
  · rw [heq, advance, hfind]
    rfl
  · rw [heq, advance, hfind, hcompile]
    rfl
  · have hkeep := Cache.insertIfAbsent_eq_keepFirst hfind r
    rw [Cache.insertIfAbsent_of_find?_eq_none hfind] at hkeep
    rw [heq, advance, hfind, hcompile]
    show (returned (.ok ((c.make r).2.keepFirst p (c.make r).1).1), ((c.make r).2.keepFirst p (c.make r).1).2) = _
    rw [← hkeep]
    rfl

/-- A call without further steps has returned. -/
theorem eq_returned_of_remaining (h : t.remaining = 0) : ∃ result, t = returned result := by
  cases t with
  | waiting | holding a => cases h
  | returned result => exact ⟨result, rfl⟩

namespace Advances

theorem remaining_le (h : Advances c p t t' c') : t'.remaining ≤ t.remaining - 1 := by
  cases h <;> simp [remaining]

/-- A step adds an entry for the pattern of the call at most. -/
theorem grownBy (h : Advances c p t t' c') (ht : t.Fits c p) :
    ∃ added, Cache.GrownBy c c' added ∧ ∀ q ∈ added, q = p := by
  cases h with
  | hit | reject | stay => exact ⟨[], .refl c, by simp⟩
  | make => exact ⟨[], ⟨[], (List.append_nil _).symm, rfl, by simp⟩, by simp⟩
  | keep =>
    refine ⟨_, Cache.grownBy_keepFirst ht.compile_eq, fun q hq => ?_⟩
    split at hq
    · exact List.mem_singleton.1 hq
    · exact absurd hq List.not_mem_nil

theorem sound (h : Advances c p t t' c') (hc : c.Sound) (ht : t.Fits c p) : c'.Sound := by
  cases h with
  | hit | reject | stay => exact hc
  | make => exact hc.make _
  | keep => exact hc.keepFirst ht

theorem fits (h : Advances c p t t' c') (hc : c.Sound) (ht : t.Fits c p) : t'.Fits c' p := by
  cases h with
  | hit hfind => exact hfind
  | reject _ hcompile => exact hcompile
  | make _ hcompile => exact hc.unstored_make hcompile
  | keep => exact Cache.find?_keepFirst c p _
  | stay => exact ht

/-- What another call has come to stays true to the cache. -/
theorem fits_other (h : Advances c p t t' c') (ht : t.Fits c p) (hu : u.Fits c q) (hapart : t.Apart u) :
    u.Fits c' q := by
  cases u with
  | waiting => trivial
  | holding b =>
    cases h with
    | hit | reject | stay => exact hu
    | make => exact hu.make _
    | keep => exact hu.keepFirst (hapart _ b rfl rfl) p
  | returned result =>
    obtain ⟨added, hgrown, -⟩ := h.grownBy ht
    cases result with
    | ok b => exact hgrown.find?_eq_some hu
    | error e => exact hu

/-- An artifact that is made has a number that no other call holds. -/
theorem apart_other (h : Advances c p t t' c') (hu : u.Fits c q) (hapart : t.Apart u) : t'.Apart u := by
  rintro a b ht' rfl
  cases h with
  | hit | reject | keep | stay => cases ht'
  | make =>
    obtain rfl := holding.inj ht'
    exact hu.serial_lt.ne'

/-- A call for a pattern that is rejected leaves the cache as it is. -/
theorem eq_of_error (h : Advances c p t t' c') (ht : t.Fits c p) (hcompile : compile p = .error e) : c' = c := by
  cases h with
  | hit | reject | stay => rfl
  | make _ hok => cases hcompile.symm.trans hok
  | keep => cases hcompile.symm.trans ht.compile_eq

end Advances

end Stage

/-! ### Every schedule -/

namespace Race

variable {ι : Type*} {patterns : ι → Pattern} {s : Race ι} {i j : ι}

/-- The cache is sound, all calls are true to it, and no two of them hold artifacts with the same number. -/
structure Valid (patterns : ι → Pattern) (s : Race ι) : Prop where
  sound : s.cache.Sound
  fits : ∀ i, (s.stage i).Fits s.cache (patterns i)
  apart : Pairwise fun i j => (s.stage i).Apart (s.stage j)

theorem valid_start (patterns : ι → Pattern) (h : c.Sound) : Valid patterns (start c) where
  sound := h
  fits _ := trivial
  apart _ _ _ _ _ hwaiting := nomatch hwaiting

/-- An artifact that a call has returned is the one in the cache. -/
theorem Valid.find?_eq (h : Valid patterns s) (hstage : s.stage i = .returned (.ok a)) :
    s.cache.find? (patterns i) = some a := by
  have hfits := h.fits i
  rwa [hstage] at hfits

/-- A call returns the route that its pattern is compiled to, or the reason why there is none. -/
theorem Valid.compile_eq (h : Valid patterns s) (hstage : s.stage i = .returned result) :
    result.map Artifact.route = compile (patterns i) := by
  cases result with
  | ok a => exact (h.sound.compile_eq _ a (Cache.mem_entries_of_find? (h.find?_eq hstage))).symm
  | error e =>
    have hfits := h.fits i
    rw [hstage] at hfits
    exact Eq.symm hfits

variable [DecidableEq ι] {schedule : List ι}

theorem run_cons (patterns : ι → Pattern) (s : Race ι) (i : ι) (schedule : List ι) :
    s.run patterns (i :: schedule) = (s.step patterns i).run patterns schedule := rfl

theorem stage_step_self (patterns : ι → Pattern) (s : Race ι) (i : ι) :
    (s.step patterns i).stage i = ((s.stage i).advance s.cache (patterns i)).1 := Function.update_self ..

theorem stage_step_of_ne (patterns : ι → Pattern) (s : Race ι) (h : j ≠ i) :
    (s.step patterns i).stage j = s.stage j := Function.update_of_ne h ..

theorem advances_step (patterns : ι → Pattern) (s : Race ι) (i : ι) :
    Stage.Advances s.cache (patterns i) (s.stage i) ((s.step patterns i).stage i) (s.step patterns i).cache := by
  rw [stage_step_self]
  exact Stage.advances_advance s.cache (patterns i) (s.stage i)

/-- **Each step of a call keeps the cache sound and all calls true to it.** -/
theorem Valid.step (h : Valid patterns s) (i : ι) : Valid patterns (s.step patterns i) := by
  have hstep := advances_step patterns s i
  refine ⟨hstep.sound h.sound (h.fits i), fun j => ?_, fun j k hne => ?_⟩
  · by_cases hj : j = i
    · subst hj
      exact hstep.fits h.sound (h.fits j)
    · rw [stage_step_of_ne patterns s hj]
      exact hstep.fits_other (h.fits i) (h.fits j) (h.apart (Ne.symm hj))
  -- Of two different calls, one at most has taken the step.
  · show ((s.step patterns i).stage j).Apart ((s.step patterns i).stage k)
    by_cases hj : j = i
    · subst hj
      rw [stage_step_of_ne patterns s hne.symm]
      exact hstep.apart_other (h.fits k) (h.apart hne)
    · rw [stage_step_of_ne patterns s hj]
      by_cases hk : k = i
      · subst hk
        exact (hstep.apart_other (h.fits j) (h.apart hne.symm)).symm
      · rw [stage_step_of_ne patterns s hk]
        exact h.apart hne

theorem Valid.run (h : Valid patterns s) (schedule : List ι) : Valid patterns (s.run patterns schedule) := by
  induction schedule generalizing s with
  | nil => exact h
  | cons i schedule ih => exact ih (h.step i)

/-- A schedule adds entries for patterns of the calls only. -/
theorem Valid.grownBy_run (h : Valid patterns s) (schedule : List ι) :
    ∃ added, Cache.GrownBy s.cache (s.run patterns schedule).cache added ∧ ∀ p ∈ added, ∃ i, patterns i = p := by
  induction schedule generalizing s with
  | nil => exact ⟨[], .refl s.cache, by simp⟩
  | cons i schedule ih =>
    obtain ⟨added, hgrown, hadded⟩ := (advances_step patterns s i).grownBy (h.fits i)
    obtain ⟨added', hgrown', hadded'⟩ := ih (h.step i)
    refine ⟨added ++ added', hgrown.trans hgrown', List.forall_mem_append.2 ⟨?_, hadded'⟩⟩
    exact fun p hp => ⟨i, (hadded p hp).symm⟩

/-- With each step that it takes, a call comes nearer to its end; steps of other calls do not hinder it. -/
theorem remaining_run (patterns : ι → Pattern) (s : Race ι) (schedule : List ι) (i : ι) :
    ((s.run patterns schedule).stage i).remaining ≤ (s.stage i).remaining - schedule.count i := by
  induction schedule generalizing s with
  | nil => exact Nat.le_refl _
  | cons j schedule ih =>
    have hrest := ih (s.step patterns j)
    rw [run_cons, List.count_cons]
    by_cases hj : j = i
    · subst hj
      have hstep := (advances_step patterns s j).remaining_le
      simp only [beq_self_eq_true, if_true]
      exact hrest.trans (by omega)
    · rw [stage_step_of_ne patterns s (Ne.symm hj)] at hrest
      simpa [hj] using hrest

/-- A call that has returned takes no more steps. -/
theorem stage_run_of_returned (h : s.stage i = .returned result) (schedule : List ι) :
    (s.run patterns schedule).stage i = .returned result := by
  induction schedule generalizing s with
  | nil => exact h
  | cons j schedule ih =>
    refine ih ?_
    by_cases hj : i = j
    · subst hj
      rw [stage_step_self, h, Stage.advance]
    · rw [stage_step_of_ne patterns s hj, h]

/-- **Two steps in a row are a request**: a call that is not interrupted gives what a request gives, and leaves the
same cache. -/
theorem run_uninterrupted (h : s.stage i = .waiting) :
    s.run patterns [i, i] =
      ⟨(s.cache.getOrCompile (patterns i)).2,
        Function.update s.stage i (.returned (s.cache.getOrCompile (patterns i)).1.result)⟩ := by
  have hadvance := Stage.advance_advance s.cache (patterns i)
  have hfirst : s.step patterns i = ⟨(Stage.waiting.advance s.cache (patterns i)).2,
      Function.update s.stage i (Stage.waiting.advance s.cache (patterns i)).1⟩ := by
    rw [step, h]
  show (s.step patterns i).step patterns i = _
  rw [hfirst, step]
  simp only [Function.update_self, Function.update_idem, hadvance]

/-- The patterns of a cache after all calls have returned. -/
theorem mem_patterns_run (hc : c.Sound)
    (hreturned : ∀ i, ∃ result, ((start c).run patterns schedule).stage i = .returned result) :
    p ∈ ((start c).run patterns schedule).cache.patterns ↔
      p ∈ c.patterns ∨ (∃ i, patterns i = p) ∧ ∃ r, compile p = .ok r := by
  have hstart := valid_start patterns hc
  have hvalid := hstart.run schedule
  obtain ⟨added, hgrown, hadded⟩ := hstart.grownBy_run schedule
  have hpatterns := hgrown.patterns_eq
  constructor
  · intro hmem
    obtain ⟨⟨q, a⟩, hentry, rfl⟩ := List.mem_map.1 hmem
    rw [hpatterns] at hmem
    obtain hmem | hmem := List.mem_append.1 hmem
    · exact .inl hmem
    · exact .inr ⟨hadded _ hmem, a.route, hvalid.sound.compile_eq _ a hentry⟩
  · rintro (hmem | ⟨⟨i, rfl⟩, r, hcompile⟩)
    · rw [hpatterns]
      exact List.mem_append_left _ hmem
    · obtain ⟨result, hstage⟩ := hreturned i
      have hresult := hvalid.compile_eq hstage
      rw [hcompile] at hresult
      cases result with
      | error e => cases hresult
      | ok a =>
        have hentry := Cache.mem_entries_of_find? (hvalid.find?_eq hstage)
        exact List.mem_map_of_mem (f := Prod.fst) hentry

/-- What racing calls have come to, from the cache `c` on. -/
structure Shared (patterns : ι → Pattern) (c : Cache) (s : Race ι) : Prop where
  /-- A pattern that has an artifact keeps it, whatever steps follow. -/
  lasting : ∀ schedule p a, s.cache.find? p = some a → (s.run patterns schedule).cache.find? p = some a
  /-- A call that has returned stays as it is. -/
  stage_eq : ∀ schedule i result, s.stage i = .returned result →
    (s.run patterns schedule).stage i = .returned result
  /-- A call returns the route that its pattern is compiled to, or the reason why there is none. -/
  compile_eq : ∀ i result, s.stage i = .returned result → result.map Artifact.route = compile (patterns i)
  /-- An artifact that a call has returned is the one in the cache. -/
  find?_eq : ∀ i a, s.stage i = .returned (.ok a) → s.cache.find? (patterns i) = some a
  /-- Calls for the same pattern return the same artifact. -/
  artifact_eq : ∀ i j a b, patterns i = patterns j → s.stage i = .returned (.ok a) →
    s.stage j = .returned (.ok b) → a = b
  /-- A pattern that is rejected has no entry, and no step of a call for it changes the cache. -/
  of_error : ∀ i e, compile (patterns i) = .error e →
    patterns i ∉ s.cache.patterns ∧ (s.step patterns i).cache = s.cache
  /-- A pattern has one entry at most. -/
  nodup : s.cache.patterns.Nodup
  /-- When all calls have returned, exactly those patterns have been added that calls were made for and that
  compile. -/
  mem_patterns_iff : (∀ i, ∃ result, s.stage i = .returned result) →
    ∀ p, p ∈ s.cache.patterns ↔ p ∈ c.patterns ∨ (∃ i, patterns i = p) ∧ ∃ r, compile p = .ok r

/-- **Racing calls share one artifact.** Whatever cache a session has come to, whatever patterns the calls are for,
and in whatever order they take their steps, they stay `Shared`; and a call that has had two turns has returned. It
is the same race if the calls are made through any clones of the handle of the session. -/
theorem shared_run (steps : List Step) (patterns : ι → Pattern) (schedule : List ι) :
    Shared patterns (Session.start.run steps).cache
        ((start (Session.start.run steps).cache).run patterns schedule) ∧
      (∀ i, 2 ≤ schedule.count i → ∃ result,
        ((start (Session.start.run steps).cache).run patterns schedule).stage i = .returned result) ∧
      ∀ handles : ι → CacheHandle, (∀ i, (Session.start.run steps).handle.Clones (handles i)) →
        ((RaceThrough.start (Session.start.run steps).caches).run handles patterns schedule).seenFrom
            (Session.start.run steps).handle =
          (start (Session.start.run steps).cache).run patterns schedule := by
  have hsound := Session.sound_run steps
  have hvalid := (valid_start patterns hsound).run schedule
  refine ⟨?_, ?_, fun handles hclones => RaceThrough.seenFrom_run hclones patterns _ schedule⟩
  · constructor
    case lasting =>
      intro later p a hfind
      obtain ⟨added, hgrown, -⟩ := hvalid.grownBy_run later
      exact hgrown.find?_eq_some hfind
    case stage_eq => exact fun later i result hstage => stage_run_of_returned hstage later
    case compile_eq => exact fun i result hstage => hvalid.compile_eq hstage
    case find?_eq => exact fun i a hstage => hvalid.find?_eq hstage
    case artifact_eq =>
      intro i j a b heq hi hj
      have hfind := hvalid.find?_eq hi
      rw [heq, hvalid.find?_eq hj] at hfind
      exact (Option.some.inj hfind).symm
    case of_error =>
      intro i e hcompile
      constructor
      · exact Cache.find?_eq_none_iff.1 (hvalid.sound.find?_eq_none hcompile)
      · exact (advances_step patterns _ i).eq_of_error (hvalid.fits i) hcompile
    case nodup => exact hvalid.sound.patterns_nodup
    case mem_patterns_iff => exact fun hreturned p => mem_patterns_run hsound hreturned
  · intro i hcount
    have hremaining := remaining_run patterns (start (Session.start.run steps).cache) schedule i
    have hzero : ((start (Session.start.run steps).cache).stage i).remaining - schedule.count i = 0 :=
      Nat.sub_eq_zero_of_le hcount
    rw [hzero, Nat.le_zero] at hremaining
    exact Stage.eq_returned_of_remaining hremaining

/-- Users by number. -/
def usersPattern : Pattern where
  path := "/users/{id}"

/-- Two calls for `usersPattern`, of which the second one overtakes the first one between its two steps. The
pattern had an artifact before, with the number zero, but the cache was cleared. -/
def overtaken : Race Bool :=
  (start (Session.start.run [.get usersPattern, .clear]).cache).run (fun _ => usersPattern)
    [false, true, true, false]

/-- The first call of `overtaken` has the handle of the session, and the second one a clone of a clone of it. -/
def overtakenHandles : Bool → CacheHandle
  | false => (Session.start.run [.get usersPattern, .clear]).handle
  | true => (Session.start.run [.get usersPattern, .clear]).handle.clone.clone

/-- Both calls return the artifact with the number two, through whichever clones. The one that the first call had
made before has the number one. -/
theorem shared_run_overtaken :
    (∃ a, a.serial = 2 ∧ overtaken.stage false = .returned (.ok a) ∧ overtaken.stage true = .returned (.ok a) ∧
      compile usersPattern = .ok a.route ∧ overtaken.cache.patterns = [usersPattern]) ∧
      ((RaceThrough.start (Session.start.run [.get usersPattern, .clear]).caches).run overtakenHandles
          (fun _ => usersPattern) [false, true, true, false]).seenFrom (overtakenHandles false) = overtaken := by
  obtain ⟨hshared, hreturned, hclones⟩ := shared_run [.get usersPattern, .clear] (fun _ : Bool => usersPattern)
    [false, true, true, false]
  refine ⟨?_, hclones overtakenHandles fun i => ?_⟩
  · obtain ⟨a, hserial, hsecond⟩ : ∃ a, a.serial = 2 ∧ overtaken.stage true = .returned (.ok a) := ⟨_, rfl, rfl⟩
    have hcompile : compile usersPattern = .ok a.route := (hshared.compile_eq true _ hsecond).symm
    obtain ⟨result, hfirst⟩ := hreturned false (by decide)
    have hresult := hshared.compile_eq false result hfirst
    rw [hcompile] at hresult
    cases result with
    | error e => cases hresult
    | ok b =>
      obtain rfl := hshared.artifact_eq false true b a rfl hfirst hsecond
      exact ⟨b, hserial, hfirst, hsecond, hcompile, by decide +kernel⟩
  · cases i with
    | false => exact .refl
    | true => exact .clone (.clone .refl)

end Race

end RoutePatterns
