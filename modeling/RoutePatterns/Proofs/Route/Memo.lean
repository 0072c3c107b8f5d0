import RoutePatterns.Proofs.Bindings
import RoutePatterns.Proofs.Pattern.Filled
import RoutePatterns.Route.ConstraintMemo

/-!
# Generation through a memo

A memo is shared by all calls that generate paths or hosts (`Generation`), of whatever routes. A call asks it for
the expressions of the constraints that it comes to (`checkedIn`), one after the other, until a variable is left
out or refused; what was asked for before a refusal stays in the memo (`ConstraintMemo.renderFrom_eq`).

Each time a memo is asked it finds an entry, is given a constraint that is no regular expression, or adds an entry
(`ConstraintMemo.regex?_cases`). This keeps it sound: its entries are the expressions of their constraints, and no
constraint comes twice. So after any calls a memo answers as an empty one does, and it holds exactly those
constraints that the calls came to and that are regular expressions (`ConstraintMemo.memo_transparent`).
-/

namespace RoutePatterns

/-- The constraints that values are checked against when tokens are filled, in order. -/
def checkedIn (optional : List String) (params : Lookup) : List Token → List String
  | [] => []
  | .text _ :: tokens => checkedIn optional params tokens
  | .var _ constraint name :: tokens =>
    match usedValue optional params name with
    | none => []
    | some value =>
      match checkConstraint name constraint value with
      | .error _ => [constraint]
      | .ok () => constraint :: checkedIn optional params tokens

/-- A call that generates the path or the host of a route. -/
inductive Generation where
  | path (r : Route) (params : Lookup)
  | host (r : Route) (params : Lookup)

namespace Generation

/-- The answer without a memo. -/
def answer : Generation → Except GenerateError String
  | path r params => r.generatePath params
  | host r params => r.generateHost params

/-- The answer through a memo, and the memo after it. -/
def answerThrough (m : ConstraintMemo) : Generation → Except GenerateError String × ConstraintMemo
  | path r params => m.generatePath r params
  | host r params => m.generateHost r params

/-- The constraints that values are checked against, in order. -/
def checked : Generation → List String
  | path r params => checkedIn r.optionalVariables params r.pathTokens
  | host r params => checkedIn [] params r.hostTokens

end Generation

namespace ConstraintMemo

/-- The constraints that the memo has expressions of. -/
def constraints (m : ConstraintMemo) : List String := m.entries.map Prod.fst

/-- Asks for the expressions of constraints, one after the other. -/
def ask (m : ConstraintMemo) (constraints : List String) : ConstraintMemo :=
  constraints.foldl (fun m constraint => (m.regex? constraint).2) m

/-- Answers calls, one after the other. -/
def answerAll (m : ConstraintMemo) : List Generation → List (Except GenerateError String) × ConstraintMemo
  | [] => ([], m)
  | call :: calls =>
    let (answer, m) := call.answerThrough m
    let (answers, m) := m.answerAll calls
    (answer :: answers, m)

/-- The entries are the expressions of their constraints, and no constraint comes twice. -/
structure Sound (m : ConstraintMemo) : Prop where
  regex_eq : ∀ constraint r, (constraint, r) ∈ m.entries → constraintRegex? constraint = some r
  nodup : m.constraints.Nodup

variable {m : ConstraintMemo} {constraint other : String} {r : Regex} {optional : List String} {params : Lookup}
  {tokens : List Token} {calls : List Generation}

/-! ### Asking for one expression -/

theorem find?_eq_none_iff : m.find? constraint = none ↔ constraint ∉ m.constraints := lookup_eq_none_iff_not_mem

theorem mem_entries_of_find? (h : m.find? constraint = some r) : (constraint, r) ∈ m.entries :=
  mem_of_lookup_eq_some h

/-- What asking for an expression comes to, and what it does to the memo. -/
theorem regex?_cases (m : ConstraintMemo) (constraint : String) :
    (∃ r, m.find? constraint = some r ∧ m.regex? constraint = (some r, m)) ∨
      (constraintRegex? constraint = none ∧ m.regex? constraint = (none, m)) ∨
      ∃ r, m.find? constraint = none ∧ constraintRegex? constraint = some r ∧
        m.regex? constraint = (some r, m.insert constraint r) := by
  cases hfind : m.find? constraint with
  | some r => exact .inl ⟨r, rfl, by rw [regex?, hfind]⟩
  | none =>
    cases hread : constraintRegex? constraint with
    | none => exact .inr (.inl ⟨rfl, by simp only [regex?, hfind, hread]⟩)
    | some r => exact .inr (.inr ⟨r, rfl, rfl, by simp only [regex?, hfind, hread]⟩)

/-- The constraints of the memo afterwards. -/
theorem mem_constraints_regex? : other ∈ (m.regex? constraint).2.constraints ↔
    other ∈ m.constraints ∨ other = constraint ∧ (constraintRegex? other).isSome := by
  obtain ⟨r, hfind, heq⟩ | ⟨hread, heq⟩ | ⟨r, -, hread, heq⟩ := m.regex?_cases constraint <;> rw [heq]
  · have hmem : constraint ∈ m.constraints := List.mem_map_of_mem (f := Prod.fst) (mem_entries_of_find? hfind)
    refine ⟨.inl, ?_⟩
    rintro (hother | ⟨rfl, -⟩)
    · exact hother
    · exact hmem
  · refine ⟨.inl, ?_⟩
    rintro (hother | ⟨rfl, hsome⟩)
    · exact hother
    · rw [hread] at hsome
      cases hsome
  · rw [constraints, insert, List.map_cons, List.mem_cons, or_comm]
    refine or_congr Iff.rfl ⟨?_, And.left⟩
    rintro rfl
    exact ⟨rfl, by rw [hread]; rfl⟩

theorem sound_empty : Sound empty where
  regex_eq _ _ hmem := by cases hmem
  nodup := .nil

namespace Sound

/-- A sound memo gives the expression that a constraint has. -/
theorem regex?_fst (h : m.Sound) (constraint : String) :
    (m.regex? constraint).1 = constraintRegex? constraint := by
  obtain ⟨r, hfind, heq⟩ | ⟨hread, heq⟩ | ⟨r, -, hread, heq⟩ := m.regex?_cases constraint <;> rw [heq]
  · exact (h.regex_eq constraint r (mem_entries_of_find? hfind)).symm
  · exact hread.symm
  · exact hread.symm

/-- **Asking for an expression keeps a memo sound.** -/
theorem regex?_snd (h : m.Sound) (constraint : String) : (m.regex? constraint).2.Sound := by
  obtain ⟨r, -, heq⟩ | ⟨-, heq⟩ | ⟨r, hfind, hread, heq⟩ := m.regex?_cases constraint <;> rw [heq]
  · exact h
  · exact h
  · constructor
    · intro other r' hmem
      obtain heq | hmem := List.mem_cons.1 hmem
      · obtain ⟨rfl, rfl⟩ := Prod.mk.inj heq
        exact hread
      · exact h.regex_eq other r' hmem
    · exact List.nodup_cons.2 ⟨find?_eq_none_iff.1 hfind, h.nodup⟩

theorem check_eq (h : m.Sound) (name constraint value : String) :
    m.check name constraint value = (checkConstraint name constraint value, (m.regex? constraint).2) := by
  rw [check, checkConstraint, ← h.regex?_fst constraint]

end Sound

/-! ### Asking for several expressions -/

theorem Sound.ask (h : m.Sound) (asked : List String) : (m.ask asked).Sound := by
  induction asked generalizing m with
  | nil => exact h
  | cons constraint asked ih => exact ih (h.regex?_snd constraint)

theorem ask_append (m : ConstraintMemo) (asked later : List String) :
    m.ask (asked ++ later) = (m.ask asked).ask later := List.foldl_append

/-- A memo that was asked for expressions has those that there are. -/
theorem mem_constraints_ask {asked : List String} : constraint ∈ (m.ask asked).constraints ↔
    constraint ∈ m.constraints ∨ constraint ∈ asked ∧ (constraintRegex? constraint).isSome := by
  induction asked generalizing m with
  | nil => simp [ask]
  | cons first asked ih =>
    show constraint ∈ ((m.regex? first).2.ask asked).constraints ↔ _
    rw [ih, mem_constraints_regex?, or_assoc, ← or_and_right, List.mem_cons]

/-! ### Generation -/

/-- **Tokens are filled through a memo as they are without one**, and the memo is asked for the expressions of the
constraints that are come to. -/
theorem renderFrom_eq (h : m.Sound) (first : Bool) (tokens : List Token) :
    m.renderFrom optional params first tokens =
      (RoutePatterns.renderFrom optional params first tokens, m.ask (checkedIn optional params tokens)) := by
  induction tokens generalizing m first with
  | nil => rfl
  | cons token tokens ih =>
    cases token with
    | text content => rw [renderFrom, ih h, renderFrom_text, checkedIn]
    | var separator constraint name =>
      cases hused : usedValue optional params name with
      | none =>
        rw [renderFrom_var_of_none hused, renderFrom, checkedIn, hused]
        simp only [List.contains_iff_mem]
        rfl
      | some value =>
        have hasked := ih (h.regex?_snd constraint) false
        rw [renderFrom_var_of_some hused, renderFrom, checkedIn, hused]
        simp only [h.check_eq]
        -- A refused value ends the call, but the memo has been asked for the constraint by then.
        cases hcheck : checkConstraint name constraint value with
        | error e => rfl
        | ok u =>
          simp only [hasked]
          rfl

theorem answerThrough_eq (h : m.Sound) (call : Generation) :
    call.answerThrough m = (call.answer, m.ask call.checked) := by
  cases call with
  | path r params => exact renderFrom_eq h true r.pathTokens
  | host r params => exact renderFrom_eq h true r.hostTokens

/-- **Calls are answered through a memo as they are without one.** -/
theorem answerAll_eq (h : m.Sound) (calls : List Generation) :
    m.answerAll calls = (calls.map Generation.answer, m.ask (calls.flatMap Generation.checked)) := by
  induction calls generalizing m with
  | nil => rfl
  | cons call calls ih =>
    rw [answerAll, answerThrough_eq h, List.map_cons, List.flatMap_cons, ask_append]
    simp only [ih (h.ask call.checked)]

/-! ### Transparency -/

/-- Checks through a memo give what they give with an empty one. -/
structure Transparent (m : ConstraintMemo) : Prop where
  /-- An entry is the expression of its own constraint, between anchors. -/
  regex_eq : ∀ constraint r, (constraint, r) ∈ m.entries → Regex.ofText? (anchored constraint) = some r
  /-- A constraint that is no regular expression has no entry. -/
  not_mem : ∀ constraint, Regex.ofText? (anchored constraint) = none → constraint ∉ m.constraints
  /-- A constraint has one entry at most. -/
  nodup : m.constraints.Nodup
  /-- A check gives what it gives with an empty memo. -/
  check_eq : ∀ name constraint value, (m.check name constraint value).1 = (empty.check name constraint value).1
  /-- A value that does not match is refused in the name of the variable that is checked now. -/
  of_regex : ∀ name constraint value r, Regex.ofText? (anchored constraint) = some r →
    (m.check name constraint value).1 =
      if r.isMatch value then .ok () else .error (.mismatch name value constraint)
  /-- So is a constraint that is no regular expression, and the memo stays as it is. -/
  of_no_regex : ∀ name constraint value, Regex.ofText? (anchored constraint) = none →
    m.check name constraint value = (.error (.invalidConstraint name constraint), m)

theorem Sound.transparent (h : m.Sound) : m.Transparent where
  regex_eq := h.regex_eq
  not_mem constraint hread hmem := by
    obtain ⟨⟨_, r⟩, hentry, rfl⟩ := List.mem_map.1 hmem
    cases hread.symm.trans (h.regex_eq _ r hentry)
  nodup := h.nodup
  check_eq name constraint value := by rw [h.check_eq, sound_empty.check_eq]
  of_regex name constraint value r hread := by
    have hregex : constraintRegex? constraint = some r := hread
    rw [h.check_eq, checkConstraint, hregex, checkWith]
  of_no_regex name constraint value hread := by
    have hregex : constraintRegex? constraint = none := hread
    obtain ⟨r, hfind, -⟩ | ⟨-, heq⟩ | ⟨r, -, hsome, -⟩ := m.regex?_cases constraint
    · cases hregex.symm.trans (h.regex_eq _ r (mem_entries_of_find? hfind))
    · rw [h.check_eq, heq, checkConstraint, hregex, checkWith]
    · cases hregex.symm.trans hsome

/-- **The memo cannot be told from reading each constraint anew.** Whatever calls were answered through it from the
beginning, of whatever routes, and whether they succeeded or not: it is transparent, each of the calls was answered
as it is without a memo, and the memo holds exactly the constraints that the calls came to and that are regular
expressions. -/
theorem memo_transparent (calls : List Generation) :
    (empty.answerAll calls).2.Transparent ∧
      (empty.answerAll calls).1 = calls.map Generation.answer ∧
      ∀ constraint, constraint ∈ (empty.answerAll calls).2.constraints ↔
        (∃ call ∈ calls, constraint ∈ call.checked) ∧ (Regex.ofText? (anchored constraint)).isSome := by
  rw [answerAll_eq sound_empty]
  refine ⟨(sound_empty.ask _).transparent, rfl, fun constraint => ?_⟩
  rw [mem_constraints_ask, List.mem_flatMap]
  have hnone : constraint ∉ empty.constraints := List.not_mem_nil
  exact or_iff_right hnone

end ConstraintMemo

end RoutePatterns
