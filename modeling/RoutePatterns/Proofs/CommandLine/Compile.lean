import RoutePatterns.CommandLine.Run
import RoutePatterns.Proofs.CommandLine.Arguments
import RoutePatterns.Proofs.CommandLine.Outcome
import RoutePatterns.Proofs.Json.RoundTrip

/-!
# Compiling a pattern

The command `compile` is given a path, perhaps a host, and expressions by name, and agrees with compiling the
pattern that these make (`compile_command_agrees`): it succeeds on the same patterns and prints the route, so that
what is printed is decoded to it. Of the expressions for a name the last one counts, and expressions for different
names can be given in any order.
-/

namespace RoutePatterns

namespace CommandLine

/-- The options that give a path, a host if there is one, and expressions by name. -/
def compileSettings (path : String) (host : Option String) (pairs : List (String × String)) :
    List (Setting × String) :=
  (.path, path) :: host.toList.map (fun h => (.host, h)) ++ pairs.map fun e => (.override, assignment e)

/-- The arguments that compile a path with a host, if there is one, and with expressions by name. -/
def compileArguments (path : String) (host : Option String) (pairs : List (String × String)) : List String :=
  "compile" :: (compileSettings path host pairs).map fun e => attached e.1 e.2

/-- The command, a path, a host, and an expression for a variable. -/
example : compileArguments "/user/\x7bid\x7d" (some "example.com") [("id", "a=b")] =
    ["compile", "--path=/user/\x7bid\x7d", "--host=example.com", "--where=id=a=b"] := by
  decide +kernel

/-- Names that can be given: they are not empty, and there is no equals sign in them. -/
def AreNamed (pairs : List (String × String)) : Prop := ∀ e ∈ pairs, e.1 ≠ "" ∧ '=' ∉ e.1.toList

instance (pairs : List (String × String)) : Decidable (AreNamed pairs) :=
  inferInstanceAs (Decidable (∀ e ∈ pairs, e.1 ≠ "" ∧ '=' ∉ e.1.toList))

/-- The command compiles a path with expressions by name. -/
structure CompilesGiven (env : Environment) (path : String) (pairs : List (String × String)) : Prop where
  /-- With any host, or without one, the pattern is compiled, and the route can be decoded from what is printed. -/
  reports : ∀ host : Option String,
    Reports (compile ⟨host.getD "", path, .ofList pairs⟩) (fun r output => Json.decodeText? Route output = some r)
      (run env (compileArguments path host pairs))
  /-- Of the expressions for a name the last one counts. -/
  get?_overrides : ∀ name, (Bindings.ofList pairs).get? name = pairs.reverse.lookup name
  /-- An empty host is none. -/
  empty_host : run env (compileArguments path (some "") pairs) = run env (compileArguments path none pairs)
  /-- The order of the expressions does not matter if no name comes twice. -/
  of_perm : ∀ host pairs', (pairs.map Prod.fst).Nodup → pairs.Perm pairs' →
    run env (compileArguments path host pairs') = run env (compileArguments path host pairs)
  /-- The order of neighbours with different names does not matter if others come twice. -/
  of_swap : ∀ host before e e' after, pairs = before ++ e :: e' :: after → e.1 ≠ e'.1 →
    run env (compileArguments path host (before ++ e' :: e :: after)) =
      run env (compileArguments path host pairs)

variable {env : Environment} {path : String} {host : Option String} {pairs pairs' : List (String × String)}

/-! ### What is printed -/

/-- A route that is printed in a text with a line break at its end can be decoded. -/
theorem decodeText?_prettyText_newline (r : Route) :
    Json.decodeText? Route (Json.prettyText r ++ "\n") = some r := by
  have hnewline : Json.Spells "\n".toList [] := .blank rfl .nil
  have hpretty := Json.Value.spells_pretty (Json.LawfulCoded.hasText_encode r)
  exact Json.decodeText?_of_spells (hpretty.concat_blanks hnewline)

theorem reports_runCompile (env : Environment) (logLevel : Option String) (p : Pattern) :
    Reports (compile p) (fun r output => Json.decodeText? Route output = some r) (runCompile env logLevel p) := by
  cases hcompile : compile p with
  | ok r =>
    simp only [runCompile, hcompile]
    exact reports_of_eq_ok rfl (decodeText?_prettyText_newline r)
  | error e =>
    simp only [runCompile, hcompile]
    exact reports_of_eq_error rfl

/-! ### What is compiled -/

theorem read_compileSettings (h : AreNamed pairs) :
    Draft.read .compile {} ((compileSettings path host pairs).map fun e => attached e.1 e.2) =
      .ok { path := some path, host := host, overrides := .ofList pairs } := by
  have hhost : ((Setting.path, path) :: host.toList.map fun h => (Setting.host, h)).foldlM
      (fun d e => Draft.set d e.1 e.2) {} = .ok { path := some path, host := host } := by
    cases host <;> rfl
  rw [read_attached, compileSettings, List.foldlM_append, hhost]
  exact foldlM_override h _

theorem ofArguments_compileArguments (h : AreNamed pairs) :
    Invocation.ofArguments (compileArguments path host pairs) =
      .ok ⟨none, .compile ⟨host.getD "", path, .ofList pairs⟩⟩ := by
  refine (ofArguments_name .compile _).trans ?_
  simp only [Invocation.read, read_compileSettings h]
  rfl

theorem run_compileArguments (h : AreNamed pairs) :
    run env (compileArguments path host pairs) = runCompile env none ⟨host.getD "", path, .ofList pairs⟩ := by
  rw [run, ofArguments_compileArguments h]
  rfl

/-- Expressions that are bound alike are compiled alike. -/
theorem run_compileArguments_congr (h : AreNamed pairs) (hmem : ∀ e, e ∈ pairs' ↔ e ∈ pairs)
    (heq : Bindings.ofList pairs' = .ofList pairs) :
    run env (compileArguments path host pairs') = run env (compileArguments path host pairs) := by
  have h' : AreNamed pairs' := fun e he => h e ((hmem e).1 he)
  rw [run_compileArguments h, run_compileArguments h', heq]

/-- **The command agrees with compiling the pattern that it is given.** -/
theorem compile_command_agrees (env : Environment) (path : String) (h : AreNamed pairs) :
    CompilesGiven env path pairs where
  reports host := by
    rw [run_compileArguments h]
    exact reports_runCompile env none _
  get?_overrides := Bindings.get?_ofList pairs
  empty_host := by
    rw [run_compileArguments h, run_compileArguments h]
    rfl
  of_perm host pairs' hnodup hperm :=
    run_compileArguments_congr h (fun _ => hperm.mem_iff.symm) (Bindings.ofList_of_perm hperm hnodup).symm
  of_swap host before e e' after heq hne := by
    subst heq
    have hswap : (before ++ e' :: e :: after).Perm (before ++ e :: e' :: after) :=
      (List.Perm.swap e e' after).append_left _
    exact run_compileArguments_congr h (fun _ => hswap.mem_iff) (Bindings.ofList_swap hne before after).symm

/-- Expressions with a quote, with equals signs, and with another one for the same name. -/
def userPairs : List (String × String) := [("id", "\\d+"), ("tab", "a=b"), ("id", "[^=\"]+")]

/-- An environment without files. -/
def noFiles : Environment where
  content _ := .error .notFound

/-- A path is compiled with `userPairs`, and there is a route. -/
theorem compile_command_agrees_user :
    AreNamed userPairs ∧ CompilesGiven noFiles "/user/\x7bid\x7d/\x7btab?\x7d" userPairs ∧
      (run noFiles (compileArguments "/user/\x7bid\x7d/\x7btab?\x7d" none userPairs)).code = 0 := by
  have hnamed : AreNamed userPairs := by decide
  exact ⟨hnamed, compile_command_agrees noFiles _ hnamed, by decide +kernel⟩

end CommandLine

end RoutePatterns
