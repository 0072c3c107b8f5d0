import RoutePatterns.Proofs.Regex.Match

/-!
# The ordered runs of a regular expression

The runs of an expression end exactly where its matches end (`Expr.match_of_mem_runs`,
`Expr.exists_mem_runs`), so there is a preferred run exactly if there is a match
(`Expr.isSome_firstRun?`). A run keeps the spans that it begins with and adds spans of the expression's
own groups (`Expr.keeps_of_mem_runs`).
-/

namespace RoutePatterns

namespace Regex

/-! ### Repeated steps -/

section Steps

variable {step : Run → List Run} {R : Nat → Nat → Prop} {L : Nat}

/-- What holds between the ends of every step, and can be put together, holds between the ends of
the runs that take the step a number of times. -/
theorem rel_of_mem_exactly {P : Run → Run → Prop} (hrefl : ∀ r, P r r)
    (htrans : ∀ r s t, P r s → P s t → P r t) (hstep : ∀ r, ∀ next ∈ step r, P r next) {n : Nat}
    {r r' : Run} (h : r' ∈ exactly step n r) : P r r' := by
  induction n generalizing r with
  | zero => exact List.mem_singleton.1 h ▸ hrefl r
  | succ n ih =>
    obtain ⟨next, hnext, h⟩ := List.mem_flatMap.1 h
    exact htrans _ _ _ (hstep r next hnext) (ih h)

theorem mem_atMost_succ {greedy : Bool} {n : Nat} {r r' : Run} :
    r' ∈ atMost step greedy (n + 1) r ↔ r' = r ∨ ∃ next ∈ step r,
      if next.position = r.position then r' = next else r' ∈ atMost step greedy n next := by
  have hif (next : Run) : (r' ∈ if next.position = r.position then [next]
      else atMost step greedy n next) ↔
      if next.position = r.position then r' = next else r' ∈ atMost step greedy n next := by
    split
    · exact List.mem_singleton
    · exact Iff.rfl
  cases greedy <;> simp only [atMost, Bool.false_eq_true, if_true, if_false, List.mem_cons,
    List.mem_append, List.mem_flatMap, hif, List.not_mem_nil, or_false]
  exact or_comm

theorem rel_of_mem_atMost {P : Run → Run → Prop} (hrefl : ∀ r, P r r)
    (htrans : ∀ r s t, P r s → P s t → P r t) (hstep : ∀ r, ∀ next ∈ step r, P r next)
    {greedy : Bool} {n : Nat} {r r' : Run} (h : r' ∈ atMost step greedy n r) : P r r' := by
  induction n generalizing r with
  | zero => exact List.mem_singleton.1 h ▸ hrefl r
  | succ n ih =>
    rcases mem_atMost_succ.1 h with rfl | ⟨next, hnext, h⟩
    · exact hrefl r'
    · split at h
      · exact h ▸ hstep r next hnext
      · exact htrans _ _ _ (hstep r next hnext) (ih h)

variable (hR : Forward L R)
  (hsound : ∀ r, r.position ≤ L → ∀ next ∈ step r, R r.position next.position)
  (hcomplete : ∀ r q, r.position ≤ L → R r.position q → ∃ next ∈ step r, next.position = q)

include hR in
theorem Forward.le_of_le {p q : Nat} (h : R p q) (hp : p ≤ L) : q ≤ L := by
  rcases Nat.eq_or_lt_of_le (hR.le h) with rfl | hlt
  · exact hp
  · exact hR.le_length h hlt

include hR hsound in
theorem times_of_mem_exactly {n : Nat} {r r' : Run} (hr : r.position ≤ L)
    (h : r' ∈ exactly step n r) : Times R n r.position r'.position := by
  induction n generalizing r with
  | zero => exact congrArg Run.position (List.mem_singleton.1 h).symm
  | succ n ih =>
    obtain ⟨next, hnext, h⟩ := List.mem_flatMap.1 h
    have hstep := hsound r hr next hnext
    exact ⟨next.position, hstep, ih (hR.le_of_le hstep hr) h⟩

include hR hcomplete in
theorem exists_mem_exactly {n : Nat} {r : Run} {q : Nat} (hr : r.position ≤ L)
    (h : Times R n r.position q) : ∃ r' ∈ exactly step n r, r'.position = q := by
  induction n generalizing r with
  | zero => exact ⟨r, List.mem_singleton_self r, h⟩
  | succ n ih =>
    obtain ⟨m, hm, h⟩ := h
    obtain ⟨next, hnext, rfl⟩ := hcomplete r m hr hm
    obtain ⟨r', hr', hq⟩ := ih (hR.le_of_le hm hr) h
    exact ⟨r', List.mem_flatMap.2 ⟨next, hnext, hr'⟩, hq⟩

include hR hsound in
theorem times_of_mem_atMost {greedy : Bool} {n : Nat} {r r' : Run} (hr : r.position ≤ L)
    (h : r' ∈ atMost step greedy n r) : ∃ k ≤ n, Times R k r.position r'.position := by
  induction n generalizing r with
  | zero => exact ⟨0, Nat.le_refl 0, congrArg Run.position (List.mem_singleton.1 h).symm⟩
  | succ n ih =>
    rcases mem_atMost_succ.1 h with rfl | ⟨next, hnext, h⟩
    · exact ⟨0, Nat.zero_le _, rfl⟩
    · have hstep := hsound r hr next hnext
      split at h
      · exact ⟨1, by omega, next.position, hstep, congrArg Run.position h.symm⟩
      · obtain ⟨k, hk, h⟩ := ih (hR.le_of_le hstep hr) h
        exact ⟨k + 1, by omega, next.position, hstep, h⟩

include hR hcomplete in
/-- Every end of a chain of at most `n` steps is the end of a run, since the steps of the chain that
stay where they are can be left out. -/
theorem exists_mem_atMost (greedy : Bool) {n k : Nat} {r : Run} {q : Nat} (hr : r.position ≤ L)
    (hk : k ≤ n) (h : Times R k r.position q) :
    ∃ r' ∈ atMost step greedy n r, r'.position = q := by
  induction k generalizing n r with
  | zero =>
    cases n with
    | zero => exact ⟨r, List.mem_singleton_self r, h⟩
    | succ n => exact ⟨r, mem_atMost_succ.2 (.inl rfl), h⟩
  | succ k ih =>
    obtain ⟨m, hm, h⟩ := h
    by_cases hstay : m = r.position
    · -- A step that stays is left out.
      exact ih hr (by omega) (hstay ▸ h)
    · obtain ⟨n, rfl⟩ : ∃ n', n = n' + 1 := ⟨n - 1, by omega⟩
      obtain ⟨next, hnext, rfl⟩ := hcomplete r m hr hm
      obtain ⟨r', hr', hq⟩ := ih (hR.le_of_le hm hr) (Nat.le_of_succ_le_succ hk) h
      refine ⟨r', mem_atMost_succ.2 (.inr ⟨next, hnext, ?_⟩), hq⟩
      rwa [if_neg hstay]

end Steps

namespace Expr

/-! ### Runs and matches -/

variable {cs : List Char} {e : Expr}

/-- A run of an expression ends where a match ends. -/
theorem match_of_mem_runs {r r' : Run} (hr : r.position ≤ cs.length) (h : r' ∈ e.runs cs r) :
    e.Match cs r.position r'.position := by
  induction e generalizing r r' with
  | empty => exact congrArg Run.position (List.mem_singleton.1 h).symm
  | one s =>
    rw [runs] at h
    split at h
    · next hc => exact List.mem_singleton.1 h ▸ ⟨rfl, hc⟩
    · cases h
  | look l =>
    rw [runs] at h
    split at h
    · next hl =>
      obtain rfl := List.mem_singleton.1 h
      exact ⟨rfl, hr, hl⟩
    · cases h
  | cat a b iha ihb =>
    obtain ⟨r'', ha, hb⟩ := List.mem_flatMap.1 h
    have ha := iha hr ha
    exact ⟨r''.position, ha, ihb (ha.le_length hr) hb⟩
  | alt a b iha ihb => exact (List.mem_append.1 h).imp (iha hr) (ihb hr)
  | repetition min max greedy e ih =>
    obtain ⟨r'', hmin, hmore⟩ := List.mem_flatMap.1 h
    have hR := forward_match cs e
    have hsound : ∀ r, r.position ≤ cs.length → ∀ next ∈ e.runs cs r,
        e.Match cs r.position next.position := fun r hr next hnext => ih hr hnext
    have hmin := times_of_mem_exactly hR hsound hr hmin
    obtain ⟨k, hk, hmore⟩ := times_of_mem_atMost hR hsound
      ((Times.forward hR _).le_of_le hmin hr) hmore
    refine ⟨k, ?_, Times.add_iff.2 ⟨_, hmin, hmore⟩⟩
    rintro m rfl
    exact hk
  | capture name e ih =>
    obtain ⟨r'', hr'', rfl⟩ := List.mem_map.1 h
    have hm := ih hr hr''
    cases name <;> exact hm

/-- Every match is the match of a run. -/
theorem exists_mem_runs {r : Run} {q : Nat} (hr : r.position ≤ cs.length)
    (h : e.Match cs r.position q) : ∃ r' ∈ e.runs cs r, r'.position = q := by
  induction e generalizing r q with
  | empty => exact ⟨r, List.mem_singleton_self r, h⟩
  | one s =>
    obtain ⟨rfl, hc⟩ := h
    exact ⟨_, by rw [runs, if_pos hc]; exact List.mem_singleton_self _, rfl⟩
  | look l =>
    obtain ⟨hq, -, hl⟩ := h
    exact ⟨r, by rw [runs, if_pos hl]; exact List.mem_singleton_self _, hq⟩
  | cat a b iha ihb =>
    obtain ⟨m, ha, hb⟩ := h
    obtain ⟨r'', hr'', rfl⟩ := iha hr ha
    obtain ⟨r', hr', hq⟩ := ihb (ha.le_length hr) hb
    exact ⟨r', List.mem_flatMap.2 ⟨r'', hr'', hr'⟩, hq⟩
  | alt a b iha ihb =>
    rcases h with h | h
    · obtain ⟨r', hr', hq⟩ := iha hr h
      exact ⟨r', List.mem_append_left _ hr', hq⟩
    · obtain ⟨r', hr', hq⟩ := ihb hr h
      exact ⟨r', List.mem_append_right _ hr', hq⟩
  | repetition min max greedy e ih =>
    have hR := forward_match cs e
    have hcomplete : ∀ (r : Run) (q : Nat), r.position ≤ cs.length → e.Match cs r.position q →
        ∃ next ∈ e.runs cs r, next.position = q := fun r q hr h => ih hr h
    obtain ⟨k, hk, h⟩ := h
    obtain ⟨m, hmin, hmore⟩ := Times.add_iff.1 h
    obtain ⟨r'', hr'', rfl⟩ := exists_mem_exactly hR hcomplete hr hmin
    have hr''L := (Times.forward hR _).le_of_le hmin hr
    -- Without an upper bound, the runs are cut off at the length of the text.
    suffices ∃ n, (runs cs (repetition min max greedy e) r =
        (exactly (e.runs cs) min r).flatMap (atMost (e.runs cs) greedy n)) ∧
        ∃ k ≤ n, Times (e.Match cs) k r''.position q by
      obtain ⟨n, hruns, k, hk, hmore⟩ := this
      obtain ⟨r', hr', hq⟩ := exists_mem_atMost hR hcomplete greedy hr''L hk hmore
      exact ⟨r', hruns ▸ List.mem_flatMap.2 ⟨r'', hr'', hr'⟩, hq⟩
    cases max with
    | none =>
      refine ⟨cs.length + 1, rfl, ?_⟩
      rcases Nat.le_total k (cs.length + 1) with hkL | hkL
      · exact ⟨k, hkL, hmore⟩
      · exact ⟨cs.length + 1, Nat.le_refl _, Times.of_length_le hR (by omega) hmore (by omega)⟩
    | some m => exact ⟨m - min, rfl, k, hk m rfl, hmore⟩
  | capture name e ih =>
    obtain ⟨r', hr', hq⟩ := ih hr h
    exact ⟨_, List.mem_map_of_mem hr', by cases name <;> exact hq⟩

/-- **There is a preferred run exactly if the expression matches somewhere.** -/
theorem isSome_firstRun? : (e.firstRun? cs).isSome = e.found cs := by
  rw [Bool.eq_iff_iff, found_iff, firstRun?, List.isSome_findSome?]
  simp only [List.any_eq_true, List.mem_range, List.isSome_head?]
  constructor
  · rintro ⟨p, hp, hne⟩
    obtain ⟨r', hr'⟩ := List.exists_mem_of_ne_nil _ hne
    exact ⟨p, r'.position, by omega, match_of_mem_runs (r := ⟨p, []⟩) (by simp only; omega) hr'⟩
  · rintro ⟨p, q, hp, h⟩
    obtain ⟨r', hr', -⟩ := exists_mem_runs (r := ⟨p, []⟩) hp h
    exact ⟨p, by omega, List.ne_nil_of_mem hr'⟩

/-- The preferred run is a run from some position. -/
theorem exists_mem_runs_of_firstRun? {r : Run} (h : e.firstRun? cs = some r) :
    ∃ p ≤ cs.length, r ∈ e.runs cs ⟨p, []⟩ := by
  obtain ⟨p, hp, hr⟩ := List.exists_of_findSome?_eq_some h
  exact ⟨p, by have := List.mem_range.1 hp; omega, List.mem_of_mem_head? hr⟩

/-! ### Spans -/

end Expr

/-- A run goes on from another one: it keeps its spans and adds spans of the groups `names`. -/
def Run.Keeps (names : List String) (r r' : Run) : Prop :=
  ∃ new, r'.spans = new ++ r.spans ∧ ∀ s ∈ new, s.1 ∈ names

namespace Run.Keeps

variable {names : List String} {r s t : Run}

theorem refl (names : List String) (r : Run) : Keeps names r r := ⟨[], rfl, by simp⟩

theorem trans (h : Keeps names r s) (h' : Keeps names s t) : Keeps names r t := by
  obtain ⟨new, hs, hnew⟩ := h
  obtain ⟨new', ht, hnew'⟩ := h'
  refine ⟨new' ++ new, by rw [ht, hs, List.append_assoc], fun x hx => ?_⟩
  exact (List.mem_append.1 hx).elim (hnew' x) (hnew x)

theorem mono {names' : List String} (h : Keeps names r s) (hsub : ∀ n ∈ names, n ∈ names') :
    Keeps names' r s := by
  obtain ⟨new, hs, hnew⟩ := h
  exact ⟨new, hs, fun x hx => hsub _ (hnew x hx)⟩

/-- What a group has captured is not lost. -/
theorem isSome_span? (h : Keeps names r s) {name : String} (hname : (r.span? name).isSome) :
    (s.span? name).isSome := by
  obtain ⟨new, hs, -⟩ := h
  rw [span?, hs, List.lookup_append, Option.isSome_or, Bool.or_eq_true]
  exact .inr hname

/-- Nothing is captured by a group of another name. -/
theorem span?_eq (h : Keeps names r s) {name : String} (hname : name ∉ names) :
    s.span? name = r.span? name := by
  obtain ⟨new, hs, hnew⟩ := h
  have hnone : new.lookup name = none := by
    refine List.lookup_eq_none_iff.2 fun x hx => bne_iff_ne.2 ?_
    rintro rfl
    exact hname (hnew x hx)
  rw [span?, hs, List.lookup_append, hnone, Option.none_or, span?]

end Run.Keeps

/-- A run of an expression adds spans of its own groups only. -/
theorem Expr.keeps_of_mem_runs {cs : List Char} {e : Expr} {r r' : Run} (h : r' ∈ e.runs cs r) :
    Run.Keeps e.groupNames r r' := by
  induction e generalizing r r' with
  | empty => exact List.mem_singleton.1 h ▸ .refl _ _
  | one s =>
    rw [runs] at h
    split at h
    · exact List.mem_singleton.1 h ▸ ⟨[], rfl, by simp⟩
    · cases h
  | look l =>
    rw [runs] at h
    split at h
    · exact List.mem_singleton.1 h ▸ .refl _ _
    · cases h
  | cat a b iha ihb =>
    obtain ⟨r'', ha, hb⟩ := List.mem_flatMap.1 h
    exact ((iha ha).mono fun n hn => List.mem_append_left _ hn).trans
      ((ihb hb).mono fun n hn => List.mem_append_right _ hn)
  | alt a b iha ihb =>
    rcases List.mem_append.1 h with h | h
    · exact (iha h).mono fun n hn => List.mem_append_left _ hn
    · exact (ihb h).mono fun n hn => List.mem_append_right _ hn
  | repetition min max greedy e ih =>
    obtain ⟨r'', hmin, hmore⟩ := List.mem_flatMap.1 h
    have hrefl := Run.Keeps.refl e.groupNames
    have htrans (r s t : Run) : Run.Keeps e.groupNames r s → Run.Keeps e.groupNames s t →
      Run.Keeps e.groupNames r t := .trans
    have hstep (r next : Run) (hnext : next ∈ e.runs cs r) : Run.Keeps e.groupNames r next :=
      ih hnext
    exact (rel_of_mem_exactly hrefl htrans hstep hmin).trans
      (rel_of_mem_atMost hrefl htrans hstep hmore)
  | capture name e ih =>
    obtain ⟨r'', hr'', rfl⟩ := List.mem_map.1 h
    have hkeeps : Run.Keeps (capture name e).groupNames r r'' :=
      (ih hr'').mono fun n hn => List.mem_append_right _ hn
    cases name with
    | none => exact hkeeps
    | some name =>
      refine hkeeps.trans ⟨[(name, r.position, r''.position)], rfl, fun s hs => ?_⟩
      rw [List.mem_singleton.1 hs]
      exact List.mem_append_left _ (List.mem_singleton_self name)

end Regex

end RoutePatterns
