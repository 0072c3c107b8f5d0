import RoutePatterns.Proofs.Route.Enforced
import RoutePatterns.Proofs.Route.Lookahead

/-!
# Generation with derived constraints

When no constraint is overridden, what is generated can be said without regular expressions
(`ruleText`). The tokens that count are those before the first optional variable whose value is missing
or empty (`kept`). If one of their variables has no value, or a value that does not fit (`Fits`), the
leftmost of them decides which error is reported (`fault?`); otherwise their texts and values are written
one after the other.

`generate_eq_ruleText` says that a compiled route follows this rule. Each step of the generator does what
the rule says for one token (`checkConstraint_defaultConstraint`, `renderFrom_false_eq_ruleBody`), where
the constraint is known from the tokens that follow.
-/

namespace RoutePatterns

/-! ### The rule -/

/-- A value for a variable with a derived constraint: it is not empty, and contains neither the separator
of the part nor the one that comes next. -/
def Fits (default : Char) (next : Option Char) (value : String) : Prop :=
  value ≠ "" ∧ ∀ c ∈ value.toList, c ≠ default ∧ next ≠ some c

-- The characters of the value are gone through, not all characters.
instance {default : Char} {next : Option Char} {value : String} : Decidable (Fits default next value) :=
  @instDecidableAnd _ _ inferInstance (List.decidableBAll _ _)

namespace Token

/-- The tokens, each with the separator that comes next after it. -/
def withNext : List Token → List (Token × Option Char)
  | [] => []
  | token :: tokens => (token, nextSeparator tokens) :: withNext tokens

/-- An optional variable whose value is missing or empty. -/
def isLeftOut (optional : List String) (params : Lookup) : Token → Bool
  | text _ => false
  | var _ _ name => optional.contains name && (params name).all String.isEmpty

/-- A text, or the value of a variable after its separator. -/
def written (params : Lookup) : Token → String
  | text content => content
  | var separator _ name => separatorText separator ++ (params name).getD ""

/-- What is wrong with the value of a variable that the separator `next` comes after. -/
def fault? (default : Char) (params : Lookup) : Token × Option Char → Option GenerateError
  | (text _, _) => none
  | (var _ constraint name, next) =>
    match params name with
    | none => some (.missing name)
    | some value => if Fits default next value then none else some (.mismatch name value constraint)

end Token

/-- The tokens before the first variable that is left out, each with the separator that comes next. -/
def kept (optional : List String) (params : Lookup) (tokens : List Token) :
    List (Token × Option Char) :=
  (Token.withNext tokens).takeWhile fun p => !p.1.isLeftOut optional params

/-- The separator of the very first token, if that is left out. -/
def keptSeparator (optional : List String) (params : Lookup) : List Token → String
  | .var separator constraint name :: _ =>
    if (Token.var separator constraint name).isLeftOut optional params then separatorText separator
    else ""
  | _ => ""

/-- The leftmost fault of the tokens that are kept, or else what is written for them. -/
def ruleBody (default : Char) (optional : List String) (params : Lookup) (tokens : List Token) :
    Except GenerateError String :=
  let kept := kept optional params tokens
  match kept.findSome? (Token.fault? default params) with
  | some e => .error e
  | none => .ok (String.join (kept.map fun p => p.1.written params))

/-- What is generated from tokens with derived constraints. -/
def ruleText (default : Char) (optional : List String) (params : Lookup) (tokens : List Token) :
    Except GenerateError String :=
  (ruleBody default optional params tokens).map (keptSeparator optional params tokens ++ ·)

variable {default : Char} {optional : List String} {params : Lookup} {token : Token}
  {tokens : List Token} {part : Part} {overrides : Lookup} {next separator : Option Char}
  {constraint name value : String} {first : Bool}

/-- Nothing is written from a variable on that is left out. -/
theorem ruleBody_of_isLeftOut (h : token.isLeftOut optional params = true) :
    ruleBody default optional params (token :: tokens) = .ok "" := by
  have hkept : kept optional params (token :: tokens) = [] := by
    rw [kept, Token.withNext, List.takeWhile_cons_of_neg (by simp [h])]
  rw [ruleBody, hkept]
  rfl

/-- A token that is kept is reported if it has a fault, and written before the others if not. -/
theorem ruleBody_of_kept (h : token.isLeftOut optional params = false) :
    ruleBody default optional params (token :: tokens) =
      match Token.fault? default params (token, Token.nextSeparator tokens) with
      | some e => .error e
      | none => (ruleBody default optional params tokens).map (token.written params ++ ·) := by
  have hkept : kept optional params (token :: tokens) =
      (token, Token.nextSeparator tokens) :: kept optional params tokens := by
    rw [kept, Token.withNext, List.takeWhile_cons_of_pos (by simp [h])]
    rfl
  rw [ruleBody, hkept, List.findSome?_cons]
  cases Token.fault? default params (token, Token.nextSeparator tokens) with
  | some e => rfl
  | none =>
    rw [ruleBody]
    cases (kept optional params tokens).findSome? (Token.fault? default params) with
    | some e => rfl
    | none => simp [Except.map, String.join_cons]

/-! ### The generator follows the rule -/

/-- **A default constraint accepts the values that fit.** -/
theorem checkConstraint_defaultConstraint (hnext : ∀ c ∈ next, isSeparator c = true) :
    checkConstraint name (defaultConstraint part.separator next) value =
      if Fits part.separator next value then .ok ()
      else .error (.mismatch name value (defaultConstraint part.separator next)) := by
  have hfits : Satisfies (defaultConstraint part.separator next) value ↔
      Fits part.separator next value := satisfies_defaultConstraint_iff hnext
  split
  · next h => exact checkConstraint_eq_ok_iff.2 (hfits.2 h)
  · next h =>
    obtain ⟨-, -, hregex⟩ :=
      exprOfText?_defaultConstraint_of_mem part next (mem_of_isSeparator hnext)
    exact checkConstraint_eq_mismatch_iff.2 ⟨hregex, fun hs => h (hfits.1 hs)⟩

theorem Token.isLeftOut_var_iff : (var separator constraint name).isLeftOut optional params = true ↔
    name ∈ optional ∧ usedValue optional params name = none := by
  rw [isLeftOut, usedValue, Bool.and_eq_true, List.contains_iff_mem, and_congr_right_iff]
  intro hname
  cases params name <;> simp [hname]

/-- The value of a variable that is not left out is the given one. -/
theorem usedValue_of_kept (h : (Token.var separator constraint name).isLeftOut optional params = false) :
    usedValue optional params name = params name := by
  rw [Token.isLeftOut, Bool.and_eq_false_iff] at h
  rw [usedValue]
  cases hvalue : params name with
  | none => rfl
  | some value =>
    rw [hvalue, Option.all_some] at h
    rw [Option.filter_some]
    rcases h with h | h <;> simp only [h, Bool.false_and, Bool.and_false, Bool.not_false, if_true]

/-- A variable that is left out ends the text. -/
theorem renderFrom_of_isLeftOut (h : token.isLeftOut optional params = true) :
    renderFrom optional params first (token :: tokens) =
      .ok (if first then keptSeparator optional params (token :: tokens) else "") := by
  cases token with
  | text content => cases h
  | var separator constraint name =>
    obtain ⟨hname, hused⟩ := Token.isLeftOut_var_iff.1 h
    rw [renderFrom_var_of_none hused, if_pos hname, keptSeparator, if_pos h]

/-- The generator reports a token that is kept if it has a fault, and else writes it before the others. -/
theorem renderFrom_of_kept (h : token.isLeftOut optional params = false)
    (hderived : Derived part.separator overrides (token :: tokens))
    (hnone : ∀ name, overrides name = none) :
    renderFrom optional params first (token :: tokens) =
      match Token.fault? part.separator params (token, Token.nextSeparator tokens) with
      | some e => .error e
      | none => (renderFrom optional params false tokens).map (token.written params ++ ·) := by
  cases token with
  | text content => exact renderFrom_text first content
  | var separator constraint name =>
    have hused := usedValue_of_kept h
    rw [Token.fault?]
    cases hvalue : params name with
    | none =>
      have hname : name ∉ optional := fun hname => by
        rw [Token.isLeftOut_var_iff.2 ⟨hname, hused.trans hvalue⟩] at h
        cases h
      rw [renderFrom_var_of_none (hused.trans hvalue), if_neg hname]
    | some value =>
      obtain rfl : constraint = defaultConstraint part.separator (Token.nextSeparator tokens) := by
        rw [hderived.constraint_eq [] separator constraint name tokens rfl, hnone, Option.getD_none]
      rw [renderFrom_var_of_some (hused.trans hvalue),
        checkConstraint_defaultConstraint (Token.isSeparator_nextSeparator tokens)]
      simp only [Token.written, hvalue, Option.getD_some]
      split <;> rfl

/-- **The generator follows the rule**, token by token. -/
theorem renderFrom_eq_ruleBody (hderived : Derived part.separator overrides tokens)
    (hnone : ∀ name, overrides name = none) :
    renderFrom optional params first tokens =
      (ruleBody part.separator optional params tokens).map
        ((if first then keptSeparator optional params tokens else "") ++ ·) := by
  induction tokens generalizing first with
  | nil => cases first <;> rfl
  | cons token tokens ih =>
    cases h : token.isLeftOut optional params with
    | true =>
      rw [renderFrom_of_isLeftOut h, ruleBody_of_isLeftOut h, Except.map, String.append_empty]
    | false =>
      -- A token that is kept has no separator before it, so it does not matter if it is the first one.
      have hseparator : keptSeparator optional params (token :: tokens) = "" := by
        cases token with
        | text content => rfl
        | var separator constraint name => rw [keptSeparator, if_neg (by simp [h])]
      rw [renderFrom_of_kept h hderived hnone, ruleBody_of_kept h, hseparator, ite_self, ih hderived.tail]
      cases Token.fault? part.separator params (token, Token.nextSeparator tokens) with
      | some e => rfl
      | none => cases ruleBody part.separator optional params tokens <;> simp [Except.map]

theorem ruleText_ne_invalidConstraint :
    ruleText default optional params tokens ≠ .error (.invalidConstraint name constraint) := by
  rw [ruleText, ruleBody]
  cases hfault : (kept optional params tokens).findSome? (Token.fault? default params) with
  | none => exact fun h => nomatch h
  | some e =>
    obtain ⟨⟨token, next⟩, -, he⟩ := List.exists_of_findSome?_eq_some hfault
    rintro ⟨⟩
    cases token with
    | text content => cases he
    | var separator constraint name =>
      rw [Token.fault?] at he
      split at he
      · cases he
      · split at he <;> cases he

/-- **What is generated for a route without overrides is a matter of texts**: its path and its host follow the rule,
and no constraint is ever reported as invalid. -/
theorem generate_eq_ruleText {q : Pattern} {r : Route} (hnone : q.overrides = .empty)
    (h : compile q = .ok r) (params : Lookup) :
    r.generatePath params = ruleText '/' r.optionalVariables params r.pathTokens ∧
      r.generateHost params = ruleText '.' [] params r.hostTokens ∧
      ∀ name constraint,
        r.generatePath params ≠ .error (.invalidConstraint name constraint) ∧
          r.generateHost params ≠ .error (.invalidConstraint name constraint) := by
  have hoverrides (name : String) : q.overrides.get? name = none := by
    rw [hnone, Bindings.get?_empty]
  obtain ⟨p, p', hhost, hpath, rfl⟩ := compileWith_eq_ok h
  have hpathRule : (Route.ofParts p p').generatePath params =
      ruleText '/' (Route.ofParts p p').optionalVariables params p'.tokens :=
    renderFrom_eq_ruleBody (derived_of_compilePath hpath) hoverrides
  have hhostRule : (Route.ofParts p p').generateHost params = ruleText '.' [] params p.tokens :=
    renderFrom_eq_ruleBody (derived_of_compileHost hhost) hoverrides
  refine ⟨hpathRule, hhostRule, fun name constraint => ⟨?_, ?_⟩⟩
  · exact hpathRule ▸ ruleText_ne_invalidConstraint
  · exact hhostRule ▸ ruleText_ne_invalidConstraint

/-- Files with an extension, which may be shown in different views, by tenant. -/
def filesPattern : Pattern where
  host := "{tenant}.example.com"
  path := "/files/{name}.{ext}/{view?}"

/-- What `filesPattern` is compiled to. -/
def filesRoute : Route where
  staticPrefix := "/files"
  pathRegex := "^/files/(?<name>[^/\\.]+)\\.(?<ext>[^/]+)(?:/(?<view>[^/]+))?$"
  pathTokens := [.text "/files", .var (some '/') "[^/\\.]+" "name", .var (some '.') "[^/]+" "ext",
    .var (some '/') "[^/]+" "view"]
  pathVariables := ["name", "ext", "view"]
  optionalVariables := ["view"]
  hostRegex := "^(?<tenant>[^\\.]+)\\.example\\.com$"
  hostTokens := [.var none "[^\\.]+" "tenant", .text ".example.com"]
  hostVariables := ["tenant"]
  allVariables := ["tenant", "name", "ext", "view"]

theorem compile_filesPattern : compile filesPattern = .ok filesRoute := by rfl

/-- A name with a dot is refused, since a dot comes next, but an extension with a dot is not; a view that is
empty is left out. -/
theorem generate_eq_ruleText_files :
    filesRoute.generatePath (Bindings.ofList [("name", "x"), ("ext", "tar.gz"), ("view", "")]).get? =
        .ok "/files/x.tar.gz" ∧
      filesRoute.generatePath (Bindings.ofList [("name", "x.y"), ("view", "/")]).get? =
        .error (.mismatch "name" "x.y" "[^/\\.]+") ∧
      filesRoute.generatePath (Bindings.ofList [("name", "x"), ("view", "/")]).get? =
        .error (.missing "ext") ∧
      filesRoute.generateHost (Bindings.ofList [("tenant", "")]).get? =
        .error (.mismatch "tenant" "" "[^\\.]+") := by
  have hrule := generate_eq_ruleText (q := filesPattern) rfl compile_filesPattern
  refine ⟨(hrule _).1.trans ?_, (hrule _).1.trans ?_, (hrule _).1.trans ?_, (hrule _).2.1.trans ?_⟩ <;>
    decide +kernel

end RoutePatterns
