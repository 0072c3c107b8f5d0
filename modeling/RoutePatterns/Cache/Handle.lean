import RoutePatterns.Cache.Basic

/-!
# Handles on a cache

A cache is used through handles. A `CacheHandle` says at which place the cache is kept, and a clone of
it says the same place, so all clones of a handle, and all of theirs, stand for one cache
(`CacheHandle.Clones`). What is done through one of them is done through all of them, and caches at
other places are not touched (`CacheStore.read_write_of_ne`).
-/

namespace RoutePatterns

/-- Says where a cache is kept. -/
@[ext]
structure CacheHandle where
  place : Nat
deriving DecidableEq, Repr

namespace CacheHandle

/-- Another handle on the same cache. -/
def clone (h : CacheHandle) : CacheHandle := ⟨h.place⟩

/-- One handle is the other one, or was cloned from it, or from a clone of it. -/
inductive Clones (h : CacheHandle) : CacheHandle → Prop
  | refl : Clones h h
  | clone {k : CacheHandle} (hk : Clones h k) : Clones h k.clone

theorem Clones.eq {h k : CacheHandle} (hk : Clones h k) : k = h := by
  induction hk with
  | refl => rfl
  | clone _ ih => rw [ih]; rfl

end CacheHandle

/-- Caches, each at its place. -/
structure CacheStore where
  /-- The cache that is kept at a place. -/
  cacheAt : Nat → Cache := fun _ => .empty
  /-- The first place at which no cache is kept. -/
  free : Nat := 0

namespace CacheStore

variable {m : CacheStore} {h k : CacheHandle}

/-- Before a cache is kept. -/
def empty : CacheStore := {}

/-- A handle on a new cache. -/
def create (m : CacheStore) : CacheHandle × CacheStore :=
  (⟨m.free⟩, ⟨fun place => if place = m.free then .empty else m.cacheAt place, m.free + 1⟩)

/-- The cache of a handle. -/
def read (m : CacheStore) (h : CacheHandle) : Cache := m.cacheAt h.place

/-- Replaces the cache of a handle. -/
def write (m : CacheStore) (h : CacheHandle) (c : Cache) : CacheStore :=
  { m with cacheAt := fun place => if place = h.place then c else m.cacheAt place }

/-- The artifact of a pattern, from the cache of a handle. -/
def getOrCompile (m : CacheStore) (h : CacheHandle) (p : Pattern) : Access × CacheStore :=
  let (access, c) := (m.read h).getOrCompile p
  (access, m.write h c)

/-- Clears the cache of a handle. -/
def clear (m : CacheStore) (h : CacheHandle) : CacheStore := m.write h (m.read h).clear

@[simp] theorem read_write_self (m : CacheStore) (h : CacheHandle) (c : Cache) : (m.write h c).read h = c :=
  if_pos rfl

/-- Other caches stay as they are. -/
theorem read_write_of_ne (hne : k ≠ h) (m : CacheStore) (c : Cache) : (m.write h c).read k = m.read k :=
  if_neg fun hplace => hne (CacheHandle.ext hplace)

@[simp] theorem read_create (m : CacheStore) : m.create.2.read m.create.1 = .empty := if_pos rfl

end CacheStore

end RoutePatterns
