import Mathlib.Data.List.TakeWhile
import RoutePatterns.Pattern.Assembly
import RoutePatterns.Pattern.Tokens

/-!
# The shape of an assembled expression

The optional run of a list of tokens is written as groups inside of groups (`nested`), so the rest of
the run can only follow where the part before it is there. `assemble_append` gives the expression of
tokens whose run comes after other tokens, and `assemble_cons` the one of tokens that are all in the
run, where the first variable has no group around it. `exists_optionalRun` finds the run.
-/

namespace RoutePatterns

/-- The fragments of an optional run, each in a group with all that comes after it. -/
def nested : List Token → String
  | [] => ""
  | token :: tokens => "(?:" ++ token.fragment ++ nested tokens ++ ")?"

theorem nested_eq_join (tokens : List Token) :
    nested tokens = String.join (tokens.map fun token => "(?:" ++ token.fragment) ++
      String.join (List.replicate tokens.length ")?") := by
  induction tokens with
  | nil => simp [nested]
  | cons token tokens ih =>
    rw [nested, ih, List.length_cons, List.replicate_succ', List.map_cons, String.join_cons,
      String.join_append]
    simp only [String.append_assoc, String.join_cons, String.join_nil, String.append_empty]

/-- Tokens before the optional run are written as their fragments. -/
theorem map_writtenToken_before {first : Option Nat} {tokens : List Token} {k : Nat}
    (h : ∀ n ∈ first, k + tokens.length ≤ n) :
    (tokens.zipIdx k).map (writtenToken first) = tokens.map Token.fragment ∧
      (tokens.zipIdx k).countP (opensGroup first) = 0 := by
  induction tokens generalizing k with
  | nil => exact ⟨rfl, rfl⟩
  | cons token tokens ih =>
    have hrun : inOptionalRun first k = false := by
      cases first with
      | none => rfl
      | some n =>
        have := h n rfl
        rw [List.length_cons] at this
        simp [inOptionalRun]
        omega
    obtain ⟨hmap, hcount⟩ := ih (k := k + 1) fun n hn => by
      have := h n hn
      rw [List.length_cons] at this
      omega
    have hopens : opensGroup first (token, k) = false := by simp [opensGroup, hrun]
    rw [List.zipIdx_cons, List.map_cons, List.map_cons, hmap, List.countP_cons, hcount, hopens]
    simp [writtenToken, hopens, hrun]

/-- Every variable of the optional run opens a group, except for the first token of all. -/
theorem map_writtenToken_within {n : Nat} {tokens : List Token} {k : Nat} (hk : n ≤ k) (hpos : 0 < k)
    (hvar : ∀ token ∈ tokens, token.name?.isSome) :
    (tokens.zipIdx k).map (writtenToken (some n)) =
        tokens.map (fun token => "(?:" ++ token.fragment) ∧
      (tokens.zipIdx k).countP (opensGroup (some n)) = tokens.length := by
  induction tokens generalizing k with
  | nil => exact ⟨rfl, rfl⟩
  | cons token tokens ih =>
    obtain ⟨hmap, hcount⟩ := ih (k := k + 1) (by omega) (by omega) fun token htoken =>
      hvar token (List.mem_cons_of_mem _ htoken)
    have hrun : inOptionalRun (some n) k = true := by simpa [inOptionalRun] using hk
    have hopens : opensGroup (some n) (token, k) = true := by
      simp [opensGroup, hrun, hvar token List.mem_cons_self]
      omega
    rw [List.zipIdx_cons, List.map_cons, List.map_cons, hmap, List.countP_cons, hcount, hopens]
    simp [writtenToken, hopens, Nat.ne_of_gt hpos]

theorem openGroups_none (tokens : List Token) : openGroups none tokens = 0 :=
  (map_writtenToken_before fun n hn => by cases hn).2

/-- Every variable of a run after other tokens has a group around it. -/
theorem openGroups_append {before run : List Token} (hbefore : before ≠ [])
    (hvar : ∀ token ∈ run, token.name?.isSome) :
    openGroups (some before.length) (before ++ run) = run.length := by
  obtain ⟨-, hcount⟩ := @map_writtenToken_before (some before.length) before 0 fun n hn => by
    simp at hn
    omega
  obtain ⟨-, hcount'⟩ := map_writtenToken_within (Nat.le_refl before.length)
    (List.length_pos_iff.2 hbefore) hvar
  rw [openGroups, List.zipIdx_append, List.countP_append, Nat.zero_add, hcount, hcount', Nat.zero_add]

/-- The first token of all has no group around it. -/
theorem openGroups_cons {token : Token} {run : List Token}
    (hvar : ∀ t ∈ run, t.name?.isSome) : openGroups (some 0) (token :: run) = run.length := by
  obtain ⟨-, hcount⟩ := map_writtenToken_within (n := 0) (Nat.le_refl 0).step Nat.one_pos hvar
  have hopens : opensGroup (some 0) (token, 0) = false := by simp [opensGroup]
  rw [openGroups, List.zipIdx_cons, List.countP_cons, Nat.zero_add, hcount, hopens]
  rfl

theorem assemble_none (tokens : List Token) :
    assemble tokens none = "^" ++ String.join (tokens.map Token.fragment) ++ "$" := by
  obtain ⟨hmap, -⟩ := @map_writtenToken_before none tokens 0 fun n hn => by cases hn
  simp [assemble, openGroups_none, hmap]

/-- The expression of tokens with an optional run after other tokens. -/
theorem assemble_append {before run : List Token} (hbefore : before ≠ [])
    (hvar : ∀ token ∈ run, token.name?.isSome) :
    assemble (before ++ run) (some before.length) =
      "^" ++ String.join (before.map Token.fragment) ++ nested run ++ "$" := by
  obtain ⟨hmap, -⟩ := @map_writtenToken_before (some before.length) before 0 fun n hn => by
    simp at hn
    omega
  obtain ⟨hmap', -⟩ := map_writtenToken_within (Nat.le_refl before.length)
    (List.length_pos_iff.2 hbefore) hvar
  rw [assemble, openGroups_append hbefore hvar, List.zipIdx_append, List.map_append, Nat.zero_add,
    hmap, hmap', nested_eq_join, String.join_append]
  simp only [String.append_assoc]

/-- The expression of tokens that are all in the optional run. -/
theorem assemble_cons {token : Token} {run : List Token}
    (hvar : ∀ t ∈ token :: run, t.name?.isSome) :
    assemble (token :: run) (some 0) = "^" ++ token.fragment ++ "?" ++ nested run ++ "$" := by
  have hrun : ∀ t ∈ run, t.name?.isSome := fun t ht => hvar t (List.mem_cons_of_mem _ ht)
  obtain ⟨hmap, -⟩ := map_writtenToken_within (n := 0) (Nat.le_refl 0).step Nat.one_pos hrun
  have hwritten : writtenToken (some 0) (token, 0) = token.fragment ++ "?" := by
    simp [writtenToken, opensGroup, hvar token List.mem_cons_self, inOptionalRun]
  rw [assemble, openGroups_cons hrun, List.zipIdx_cons, List.map_cons, Nat.zero_add, hmap, hwritten,
    nested_eq_join, String.join_cons]
  simp only [String.append_assoc]

/-! ### The optional run -/

theorem Token.isSome_name?_of_isOneOf {optional : List String} {token : Token}
    (h : token.isOneOf optional = true) : token.name?.isSome := by
  rw [Token.isOneOf] at h
  cases hname : token.name? with
  | none => simp [hname] at h
  | some name => rfl

/-- The optional run is made of variables of `optional`, the token before it is not, and it begins where
`firstOptional` says. -/
theorem exists_optionalRun (optional : List String) (tokens : List Token) :
    ∃ before run, tokens = before ++ run ∧ (∀ token ∈ run, token.isOneOf optional = true) ∧
      (∀ token ∈ before.getLast?, token.isOneOf optional = false) ∧
      firstOptional optional tokens = if run = [] then none else some before.length := by
  let run := (tokens.reverse.takeWhile (Token.isOneOf optional)).reverse
  let before := (tokens.reverse.dropWhile (Token.isOneOf optional)).reverse
  have hsplit : tokens = before ++ run := by
    rw [← List.reverse_append, List.takeWhile_append_dropWhile, List.reverse_reverse]
  have hlength : tokens.length = before.length + run.length := by
    rw [← List.length_append, ← hsplit]
  refine ⟨before, run, hsplit, fun token htoken => ?_, fun token htoken => ?_, ?_⟩
  · exact List.mem_takeWhile_imp (List.mem_reverse.1 htoken)
  · rw [List.getLast?_reverse, Option.mem_def] at htoken
    have hnot := List.head?_dropWhile_not (Token.isOneOf optional) tokens.reverse
    rwa [htoken] at hnot
  · have hlengthRun : (tokens.reverse.takeWhile (Token.isOneOf optional)).length = run.length :=
      List.length_reverse.symm
    rw [firstOptional, hlengthRun]
    cases hrun : run with
    | nil => rfl
    | cons token rest =>
      rw [if_neg (List.cons_ne_nil _ _), hlength, hrun]
      exact congrArg some (Nat.add_sub_cancel _ _)

end RoutePatterns
