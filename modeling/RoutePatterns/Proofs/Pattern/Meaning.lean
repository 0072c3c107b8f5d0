import Mathlib.Data.List.Forall2
import RoutePatterns.Proofs.Pattern.Reading
import RoutePatterns.Proofs.Regex.Chain
import RoutePatterns.Route.Constraint

/-!
# What the expression of a list of tokens means

A chain of parts means the chain of what the parts mean (`Syntax.resolveWith?_ofItems`), because flags in
a constraint end with its group. `exprOfText?_assemble` is the expression that the text of a compiled
host or path denotes: literal characters, a capture for each variable, and for the optional run parts
inside of parts that may be missing.
-/

namespace RoutePatterns

namespace Regex

/-- Parts that mean expressions, and leave the flags as they are. -/
def Means (f : Flags) (es : List Syntax) (xs : List Expr) : Prop :=
  List.Forall₂ (fun e x => e.resolveWith? f = some (x, f)) es xs

theorem Means.append {f : Flags} {es es' : List Syntax} {xs xs' : List Expr} (h : Means f es xs)
    (h' : Means f es' xs') : Means f (es ++ es') (xs ++ xs') := List.rel_append h h'

theorem Syntax.resolveWith?_ofItems {f : Flags} {es : List Syntax} {xs : List Expr}
    (h : Means f es xs) : (Syntax.ofItems es).resolveWith? f = some (Expr.ofItems xs, f) := by
  induction h with
  | nil => rfl
  | @cons e x es xs he hes ih =>
    cases hes with
    | nil => exact he
    | cons he' hes =>
      simp only [Syntax.ofItems, Expr.ofItems, Syntax.resolveWith?, he, Option.bind_eq_bind,
        Option.bind_some]
      rw [ih]
      rfl

theorem means_literals (s : List Char) : Means {} (s.map literal) (literals s) := by
  induction s with
  | nil => exact .nil
  | cons c s ih => exact .cons rfl ih

end Regex

open Regex

namespace Token

/-- What the fragment of a token means. -/
def exprs : Token → List Expr
  | text content => literals content.toList
  | var separator constraint name =>
    literals separator.toList ++ [.capture (some name) ((exprOfText? constraint).getD .empty)]

end Token

/-- What an optional run means. -/
def nestedExprs : List Token → List Expr
  | [] => []
  | token :: tokens =>
    [.repetition 0 (some 1) true (Expr.ofItems (token.exprs ++ nestedExprs tokens))]

/-- What a list of tokens with an optional run at its end means. -/
def bodyExprs : List Token → List Token → List Expr
  | [], .var separator constraint name :: run =>
    literals separator.toList ++
      .repetition 0 (some 1) true
        (.capture (some name) ((exprOfText? constraint).getD .empty)) :: nestedExprs run
  | before, run => before.flatMap Token.exprs ++ nestedExprs run

/-! ### Names of the groups -/

/-- The groups that a token means are the ones in its fragment. -/
theorem Token.flatMap_groupNames_exprs (token : Token) :
    token.exprs.flatMap Expr.groupNames = token.groupNames := by
  cases token with
  | text content =>
    rw [exprs, ← Expr.groupNames_ofItems, Expr.groupNames_literals]
    rfl
  | var separator constraint name =>
    rw [exprs, List.flatMap_append, ← Expr.groupNames_ofItems, Expr.groupNames_literals,
      List.nil_append, List.flatMap_singleton, Expr.groupNames, groupNames]
    cases exprOfText? constraint <;> rfl

theorem flatMap_groupNames_flatMap_exprs (tokens : List Token) :
    (tokens.flatMap Token.exprs).flatMap Expr.groupNames = tokens.flatMap Token.groupNames := by
  rw [List.flatMap_assoc]
  exact List.flatMap_congr fun token _ => token.flatMap_groupNames_exprs

theorem flatMap_groupNames_nestedExprs (tokens : List Token) :
    (nestedExprs tokens).flatMap Expr.groupNames = tokens.flatMap Token.groupNames := by
  induction tokens with
  | nil => rfl
  | cons token tokens ih =>
    rw [nestedExprs, List.flatMap_singleton, Expr.groupNames, Expr.groupNames_ofItems,
      List.flatMap_append, token.flatMap_groupNames_exprs, ih, List.flatMap_cons]

theorem flatMap_groupNames_bodyExprs (before run : List Token) :
    (bodyExprs before run).flatMap Expr.groupNames = (before ++ run).flatMap Token.groupNames := by
  rw [bodyExprs.eq_def]
  split
  · next separator constraint name run =>
    have hvar := (Token.var separator constraint name).flatMap_groupNames_exprs
    rw [Token.exprs, List.flatMap_append, List.flatMap_singleton] at hvar
    rw [List.flatMap_append, List.flatMap_cons, flatMap_groupNames_nestedExprs, ← List.append_assoc,
      Expr.groupNames, hvar, List.nil_append, List.flatMap_cons]
  · rw [List.flatMap_append, flatMap_groupNames_flatMap_exprs, flatMap_groupNames_nestedExprs,
      List.flatMap_append]

/-! ### The meaning of an assembled text -/

theorem resolveWith?_namedGroup {constraint : String} (h : (exprOfText? constraint).isSome)
    (name : String) :
    (Syntax.group (.capture (some name)) ((Syntax.read? constraint).getD .empty)).resolveWith? {} =
      some (.capture (some name) ((exprOfText? constraint).getD .empty), {}) := by
  obtain ⟨x, hx⟩ := Option.isSome_iff_exists.1 h
  obtain ⟨e, he, hresolve⟩ := Option.bind_eq_some_iff.1 hx
  obtain ⟨⟨x', f⟩, hwith, rfl⟩ := Option.map_eq_some_iff.1 hresolve
  rw [he, hx, Option.getD_some, Option.getD_some, Syntax.resolveWith?, hwith, Option.map_some]

theorem means_parts {token : Token} (htoken : token.Readable) : Means {} token.parts token.exprs := by
  cases token with
  | text content => exact means_literals content.toList
  | var separator constraint name =>
    obtain ⟨-, hconstraint, -⟩ := htoken
    exact (means_literals separator.toList).append
      (.cons (resolveWith?_namedGroup hconstraint name) .nil)

theorem means_flatMap_parts {tokens : List Token} (htokens : ∀ token ∈ tokens, token.Readable) :
    Means {} (tokens.flatMap Token.parts) (tokens.flatMap Token.exprs) := by
  induction tokens with
  | nil => exact .nil
  | cons token tokens ih =>
    rw [List.flatMap_cons, List.flatMap_cons]
    exact (means_parts (htokens token List.mem_cons_self)).append
      (ih fun t ht => htokens t (List.mem_cons_of_mem _ ht))

theorem means_nestedParts {tokens : List Token} (htokens : ∀ token ∈ tokens, token.Readable) :
    Means {} (nestedParts tokens) (nestedExprs tokens) := by
  induction tokens with
  | nil => exact .nil
  | cons token tokens ih =>
    refine .cons ?_ .nil
    have h := (means_parts (htokens token List.mem_cons_self)).append
      (ih fun t ht => htokens t (List.mem_cons_of_mem _ ht))
    rw [Syntax.resolveWith?, Syntax.resolveWith?, Flags.change]
    simp only [FlagChanges.setting, List.lookup_nil, Option.getD_none]
    rw [Syntax.resolveWith?_ofItems h]
    rfl

theorem exprOfText?_of_read? {s : String} {es : List Syntax} {xs : List Expr}
    (h : Syntax.read? s = some (Reader.anchoredParts es)) (hmeans : Means {} es xs) :
    exprOfText? s = some (anchoredExpr xs) := by
  have hstart : Means {} [.assertion .lineStart] [.look .textStart] := .cons rfl .nil
  have hend : Means {} [.assertion .lineEnd] [.look .textEnd] := .cons rfl .nil
  rw [exprOfText?, h]
  simp only [Option.bind_eq_bind, Option.bind_some, Syntax.resolve?]
  rw [Reader.anchoredParts, ← List.singleton_append,
    Syntax.resolveWith?_ofItems ((hstart.append hmeans).append hend)]
  rfl

/-- **The expression that the text of a compiled host or path denotes.** -/
theorem exprOfText?_assemble {before run : List Token} (hvar : ∀ token ∈ run, token.name?.isSome)
    (htokens : ∀ token ∈ before ++ run, token.Readable)
    (hnodup : ((before ++ run).flatMap Token.groupNames).Nodup) :
    exprOfText? (assemble (before ++ run) (if run = [] then none else some before.length)) =
      some (anchoredExpr (bodyExprs before run)) := by
  have hbefore := means_flatMap_parts fun t ht => htokens t (List.mem_append_left _ ht)
  have hrun := means_nestedParts fun t ht => htokens t (List.mem_append_right _ ht)
  cases run with
  | nil =>
    rw [if_pos rfl]
    have hread := read?_assemble_none htokens hnodup
    rw [List.append_nil] at hread ⊢
    refine exprOfText?_of_read? hread ?_
    cases before with
    | nil => exact .nil
    | cons token before => simpa [bodyExprs, nestedExprs] using hbefore
  | cons token run =>
    rw [if_neg (List.cons_ne_nil _ _)]
    -- If the run is all there is, its first variable has no group around it.
    cases before with
    | nil =>
      cases token with
      | text content => cases hvar _ List.mem_cons_self
      | var separator constraint name =>
        have hread := read?_assemble_cons (fun t ht => hvar t (List.mem_cons_of_mem _ ht)) htokens
          hnodup
        refine exprOfText?_of_read? hread ((means_literals separator.toList).append (.cons ?_ ?_))
        · obtain ⟨-, hconstraint, -⟩ := htokens _ List.mem_cons_self
          rw [Syntax.resolveWith?, resolveWith?_namedGroup hconstraint name]
          rfl
        · exact means_nestedParts fun t ht => htokens t (List.mem_cons_of_mem _ ht)
    | cons token' before =>
      exact exprOfText?_of_read? (read?_assemble_append (List.cons_ne_nil _ _) hvar htokens hnodup)
        (hbefore.append hrun)

end RoutePatterns
