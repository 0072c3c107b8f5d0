import Mathlib.Data.List.Nodup
import RoutePatterns.Cache.Basic
import RoutePatterns.Proofs.Bindings

/-!
# What requests do to the cache

A request for a pattern finds its artifact, is rejected, or stores a new artifact
(`Cache.getOrCompile_cases`). So all requests keep what the storing of new artifacts keeps
(`Cache.Lasting`). Three such properties are used for whole runs:

* `Cache.Sound`: the entries are what their patterns are compiled to, and neither a pattern nor a serial
  number occurs twice;
* an artifact that a pattern has stays the one that it has;
* `Cache.Since`: no artifact is older than a given serial number.

A sound cache cannot be told from compiling each time anew (`Cache.Sound.transparent`), except by the
artifacts, and two patterns never share one (`Cache.Sound.eq_of_serial_eq`).
-/

namespace RoutePatterns

namespace Cache

variable {c : Cache} {p q : Pattern} {a b : Artifact} {r : Route} {e : PatternError} {ps : List Pattern}
  {n : Nat}

/-- The patterns that have an artifact. -/
def patterns (c : Cache) : List Pattern := c.entries.map Prod.fst

/-- The cache with a new artifact for a pattern. -/
def store (c : Cache) (p : Pattern) (r : Route) : Cache :=
  ⟨c.entries ++ [(p, ⟨c.nextSerial, r⟩)], c.nextSerial + 1⟩

/-! ### One request -/

theorem mem_entries_store {x : Pattern × Artifact} :
    x ∈ (c.store p r).entries ↔ x ∈ c.entries ∨ x = (p, ⟨c.nextSerial, r⟩) := by
  simp [store]

theorem find?_eq_none_iff : c.find? p = none ↔ p ∉ c.patterns := lookup_eq_none_iff_not_mem

theorem mem_entries_of_find? (h : c.find? p = some a) : (p, a) ∈ c.entries := mem_of_lookup_eq_some h

theorem insertIfAbsent_of_find?_eq_none (h : c.find? p = none) (r : Route) :
    c.insertIfAbsent p r = (⟨c.nextSerial, r⟩, c.store p r) := by
  simp [insertIfAbsent, h, store]

theorem find?_store_self (h : c.find? p = none) : (c.store p r).find? p = some ⟨c.nextSerial, r⟩ := by
  have hself := find?_insertIfAbsent_self c p r
  rwa [insertIfAbsent_of_find?_eq_none h] at hself

theorem find?_store_of_ne (h : c.find? p = none) (hne : q ≠ p) : (c.store p r).find? q = c.find? q := by
  have hother := find?_insertIfAbsent_of_ne c r hne
  rwa [insertIfAbsent_of_find?_eq_none h] at hother

/-- What a request comes to, and what is in the cache after it. -/
theorem getOrCompile_cases (c : Cache) (p : Pattern) :
    (∃ a, c.find? p = some a ∧ c.getOrCompile p = (.hit a, c)) ∨
      (∃ e, c.find? p = none ∧ compile p = .error e ∧ c.getOrCompile p = (.rejected e, c)) ∨
      ∃ r, c.find? p = none ∧ compile p = .ok r ∧
        c.getOrCompile p = (.compiled ⟨c.nextSerial, r⟩ (c.size + 1), c.store p r) := by
  cases hfind : c.find? p with
  | some a => exact .inl ⟨a, rfl, by simp [getOrCompile, hfind]⟩
  | none =>
    cases hcompile : compile p with
    | error e => exact .inr (.inl ⟨e, rfl, rfl, by simp [getOrCompile, hfind, hcompile]⟩)
    | ok r =>
      refine .inr (.inr ⟨r, rfl, rfl, ?_⟩)
      simp [getOrCompile, hfind, hcompile, insertIfAbsent_of_find?_eq_none hfind, store, size]

/-- After a request that gives an artifact, the pattern has it. -/
theorem find?_getOrCompile (h : (c.getOrCompile p).1.artifact? = some a) :
    (c.getOrCompile p).2.find? p = some a := by
  obtain ⟨b, hfind, heq⟩ | ⟨e, -, -, heq⟩ | ⟨r, hfind, -, heq⟩ := c.getOrCompile_cases p
  · rw [heq] at h ⊢
    obtain rfl := Option.some.inj h
    exact hfind
  · rw [heq] at h
    exact absurd h (by simp [Access.artifact?])
  · rw [heq] at h ⊢
    obtain rfl := Option.some.inj h
    exact find?_store_self hfind

/-! ### What requests keep -/

/-- The storing of new artifacts keeps a property. -/
def Lasting (P : Cache → Prop) : Prop :=
  ∀ ⦃c p r⦄, P c → c.find? p = none → compile p = .ok r → P (c.store p r)

theorem Lasting.getOrCompile {P : Cache → Prop} (hP : Lasting P) (h : P c) (p : Pattern) :
    P (c.getOrCompile p).2 := by
  obtain ⟨a, -, heq⟩ | ⟨e, -, -, heq⟩ | ⟨r, hfind, hcompile, heq⟩ := c.getOrCompile_cases p <;> rw [heq]
  · exact h
  · exact h
  · exact hP h hfind hcompile

theorem Lasting.getAll {P : Cache → Prop} (hP : Lasting P) (h : P c) (ps : List Pattern) :
    P (c.getAll ps).2 := by
  induction ps generalizing c with
  | nil => exact h
  | cons p ps ih => exact ih (hP.getOrCompile h p)

theorem length_getAll (c : Cache) (ps : List Pattern) : (c.getAll ps).1.length = ps.length := by
  induction ps generalizing c with
  | nil => rfl
  | cons p ps ih => exact congrArg (· + 1) (ih _)

/-- An artifact that a pattern has is not replaced. -/
theorem lasting_find? (p : Pattern) (a : Artifact) : Lasting fun c => c.find? p = some a := by
  intro c q r h hfind _
  have hne : p ≠ q := by
    rintro rfl
    simp [hfind] at h
  rw [find?_store_of_ne hfind hne]
  exact h

theorem lasting_le_nextSerial (n : Nat) : Lasting fun c => n ≤ c.nextSerial :=
  fun _ _ _ h _ _ => Nat.le_succ_of_le h

theorem exists_find?_getOrCompile (hcompile : compile p = .ok r) :
    ∃ a, (c.getOrCompile p).2.find? p = some a := by
  obtain ⟨a, hfind, heq⟩ | ⟨e, -, herror, -⟩ | ⟨r', hfind, -, heq⟩ := c.getOrCompile_cases p
  · rw [heq]
    exact ⟨a, hfind⟩
  · rw [hcompile] at herror
    exact absurd herror (by simp)
  · rw [heq]
    exact ⟨_, find?_store_self hfind⟩

/-- A pattern that was asked for and is not rejected has an artifact afterwards. -/
theorem exists_find?_getAll (hp : p ∈ ps) (hcompile : compile p = .ok r) :
    ∃ a, (c.getAll ps).2.find? p = some a := by
  induction ps generalizing c with
  | nil => exact absurd hp List.not_mem_nil
  | cons q ps ih =>
    obtain rfl | hp := List.mem_cons.1 hp
    · obtain ⟨a, ha⟩ := exists_find?_getOrCompile (c := c) hcompile
      exact ⟨a, (lasting_find? p a).getAll ha ps⟩
    · exact ih hp

/-- No artifact is older than a serial number. -/
structure Since (n : Nat) (c : Cache) : Prop where
  le_nextSerial : n ≤ c.nextSerial
  le_serial : ∀ x ∈ c.entries, n ≤ x.2.serial

theorem lasting_since (n : Nat) : Lasting (Since n) := by
  intro c p r h hfind hcompile
  refine ⟨lasting_le_nextSerial n h.le_nextSerial hfind hcompile, fun x hx => ?_⟩
  obtain hx | rfl := mem_entries_store.1 hx
  · exact h.le_serial x hx
  · exact h.le_nextSerial

/-- The artifacts that are stored after the cache was cleared are new. -/
theorem since_clear (c : Cache) : Since c.nextSerial c.clear := ⟨Nat.le_refl _, by simp [clear]⟩

theorem Since.clear (h : Since n c) : Since n c.clear := ⟨h.le_nextSerial, by simp [Cache.clear]⟩

/-- The entries are what their patterns are compiled to, each pattern has one entry at most, and each
artifact belongs to one pattern. -/
structure Sound (c : Cache) : Prop where
  compile_eq : ∀ p a, (p, a) ∈ c.entries → compile p = .ok a.route
  patterns_nodup : c.patterns.Nodup
  serials_nodup : (c.entries.map fun x => x.2.serial).Nodup
  serial_lt : ∀ x ∈ c.entries, x.2.serial < c.nextSerial

theorem sound_empty : Sound empty := by constructor <;> simp [empty, patterns]

theorem sound_clear (c : Cache) : Sound c.clear := by constructor <;> simp [Cache.clear, patterns]

/-- A new entry for a pattern that has none, with a number that no entry has, keeps a cache sound. -/
theorem Sound.append (h : Sound c) (hfind : c.find? p = none) (hcompile : compile p = .ok a.route)
    (hserial : ∀ x ∈ c.entries, x.2.serial ≠ a.serial) (hle : c.nextSerial ≤ n) (hlt : a.serial < n) :
    Sound ⟨c.entries ++ [(p, a)], n⟩ := by
  constructor
  · intro q b hmem
    obtain hmem | hmem := List.mem_append.1 hmem
    · exact h.compile_eq q b hmem
    · obtain ⟨rfl, rfl⟩ := Prod.mk.inj (List.mem_singleton.1 hmem)
      exact hcompile
  -- Neither the pattern nor the number of the new entry occurs in an older one.
  · have hnew : p ∉ c.patterns := find?_eq_none_iff.1 hfind
    simpa [patterns] using h.patterns_nodup.concat hnew
  · have hnew : a.serial ∉ c.entries.map fun x => x.2.serial := by
      intro hmem
      obtain ⟨x, hx, heq⟩ := List.mem_map.1 hmem
      exact hserial x hx heq
    simpa using h.serials_nodup.concat hnew
  · intro x hx
    obtain hx | hx := List.mem_append.1 hx
    · exact (h.serial_lt x hx).trans_le hle
    · obtain rfl := List.mem_singleton.1 hx
      exact hlt

theorem lasting_sound : Lasting Sound := fun c _ _ h hfind hcompile =>
  h.append hfind hcompile (fun x hx => (h.serial_lt x hx).ne) (Nat.le_succ c.nextSerial)
    (Nat.lt_succ_self c.nextSerial)

/-! ### What a sound cache tells -/

theorem Sound.find?_of_mem (h : Sound c) (hmem : (p, a) ∈ c.entries) : c.find? p = some a := by
  cases hfind : c.find? p with
  | none =>
    have hp : p ∈ c.patterns := List.mem_map_of_mem (f := Prod.fst) hmem
    exact absurd hp (find?_eq_none_iff.1 hfind)
  | some b =>
    have heq := List.inj_on_of_nodup_map h.patterns_nodup (mem_entries_of_find? hfind) hmem rfl
    rw [(Prod.mk.inj heq).2]

/-- Two patterns do not share an artifact. -/
theorem Sound.eq_of_serial_eq (h : Sound c) (hp : c.find? p = some a) (hq : c.find? q = some b)
    (heq : a.serial = b.serial) : p = q := by
  have hentry :=
    List.inj_on_of_nodup_map h.serials_nodup (mem_entries_of_find? hp) (mem_entries_of_find? hq) heq
  exact (Prod.mk.inj hentry).1

/-- Requests to the cache give what compilation gives. -/
structure Transparent (c : Cache) : Prop where
  /-- An entry has the route that its pattern is compiled to. -/
  compile_eq : ∀ p a, (p, a) ∈ c.entries → compile p = .ok a.route
  /-- A pattern that is rejected has no entry. -/
  not_mem : ∀ p e, compile p = .error e → p ∉ c.patterns
  /-- A pattern has one entry at most. -/
  nodup : c.patterns.Nodup
  /-- A request gives the route that the pattern is compiled to, or the reason why there is none. -/
  route_eq : ∀ p, (c.getOrCompile p).1.result.map Artifact.route = compile p
  /-- A request for a pattern that has an entry finds the entry and changes nothing. -/
  of_mem : ∀ p a, (p, a) ∈ c.entries → c.getOrCompile p = (.hit a, c)
  /-- A request for a pattern that is rejected changes nothing. -/
  of_error : ∀ p e, compile p = .error e → c.getOrCompile p = (.rejected e, c)

theorem Sound.find?_eq_none (h : Sound c) (hcompile : compile p = .error e) : c.find? p = none := by
  cases hfind : c.find? p with
  | none => rfl
  | some a =>
    have hok := h.compile_eq p a (mem_entries_of_find? hfind)
    rw [hcompile] at hok
    exact absurd hok (by simp)

theorem Sound.route_eq (h : Sound c) (p : Pattern) :
    (c.getOrCompile p).1.result.map Artifact.route = compile p := by
  obtain ⟨a, hfind, heq⟩ | ⟨e, -, hcompile, heq⟩ | ⟨r, -, hcompile, heq⟩ := c.getOrCompile_cases p <;>
    rw [heq]
  · rw [h.compile_eq p a (mem_entries_of_find? hfind)]
    rfl
  · rw [hcompile]
    rfl
  · rw [hcompile]
    rfl

theorem Sound.transparent (h : Sound c) : Transparent c where
  compile_eq := h.compile_eq
  not_mem _ _ hcompile := find?_eq_none_iff.1 (h.find?_eq_none hcompile)
  nodup := h.patterns_nodup
  route_eq := h.route_eq
  of_mem p a hmem := by simp [getOrCompile, h.find?_of_mem hmem]
  of_error p e hcompile := by simp [getOrCompile, h.find?_eq_none hcompile, hcompile]

end Cache

end RoutePatterns
