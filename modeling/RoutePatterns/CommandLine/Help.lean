import RoutePatterns.CommandLine.Arguments

/-!
# Help

A page of help says what the program or one of its verbs is for and how it is called, and lists the
verbs, the arguments and the options. In a list the explanations stand in one column, two blanks
after the longest term.
-/

namespace RoutePatterns

namespace CommandLine

/-! ### Lists -/

/-- Terms with their explanations, under a heading. -/
structure Glossary where
  heading : String
  entries : List (String × String)

namespace Glossary

/-- The length of the longest term. -/
def width (g : Glossary) : Nat := g.entries.foldl (fun w e => max w e.1.length) 0

/-- The line of an entry. A term without an explanation is padded, too. -/
def line (width : Nat) (e : String × String) : String :=
  "  " ++ e.1 ++ String.ofList (List.replicate (width + 2 - e.1.length) ' ') ++ e.2

/-- The lines of a list, after an empty line. A list without entries has none. -/
def lines (g : Glossary) : List String :=
  if g.entries.isEmpty then [] else "" :: (g.heading ++ ":") :: g.entries.map (line g.width)

end Glossary

/-! ### Options -/

namespace Setting

/-- What stands for the value. -/
def placeholder : Setting → String
  | logLevel => "LOG_LEVEL"
  | path => "PATH"
  | host => "HOST"
  | override => "CONSTRAINTS"

/-- What the option is for. -/
def explanation : Setting → String
  | logLevel => "Log level; defaults to the route table setting, or `info`"
  | path => "Path pattern, e.g. /user/\x7bid\x7d/\x7btab?\x7d"
  | host => "Host pattern, e.g. \x7btenant\x7d.example.com"
  | override => "Constraint override as name=regex (repeatable)"

/-- The option with its value. An option without a letter is set in as far as one with a letter. -/
def term (s : Setting) : String :=
  (match s.letter? with
    | some c => String.ofList ['-', c] ++ ", "
    | none => "    ") ++
  "--" ++ s.name ++ " <" ++ s.placeholder ++ ">"

end Setting

/-- The options that may be given, and the request for help. -/
def Shape.glossary (shape : Shape) : Glossary where
  heading := "Options"
  entries := shape.settings.map (fun s => (s.term, s.explanation)) ++ [("-h, --help", "Print help")]

/-! ### Verbs -/

namespace Verb

/-- What the verb is for. -/
def explanation : Verb → String
  | compile => "Compile a single pattern and print the result as JSON"
  | check => "Validate a route table file and print its compiled regexes"
  | watch => "Compile a route table and recompile it whenever the file changes"
  | help => "Print this message or the help of the given subcommand(s)"

/-- What follows the verb in a call. -/
def call : Verb → String
  | compile => "[OPTIONS] --path <PATH>"
  | check => "[OPTIONS] <FILE>"
  | watch => "[OPTIONS] <FILE>"
  | help => "[COMMAND]..."

/-- The arguments of the verb and its options. Help itself has no options. -/
def glossaries : Verb → List Glossary
  | compile => [(shape compile).glossary]
  | check => [⟨"Arguments", [("<FILE>", "")]⟩, (shape check).glossary]
  | watch => [⟨"Arguments", [("<FILE>", "")]⟩, (shape watch).glossary]
  | help => [⟨"Arguments", [("[COMMAND]...", "Print help for the subcommand(s)")]⟩]

end Verb

/-! ### Pages -/

/-- The name of the program. -/
def programName : String := "route-compiler"

/-- A page from what it is about, how that is called, and the lists. -/
def page (about call : String) (glossaries : List Glossary) : List String :=
  about :: "" :: ("Usage: " ++ programName ++ " " ++ call) :: glossaries.flatMap Glossary.lines

/-- The verbs with what they are for. -/
def verbGlossary : Glossary where
  heading := "Commands"
  entries := Verb.all.map fun v => (v.name, v.explanation)

/-- The page on a verb, or on the program. -/
def helpPage (topic : Option Verb) : List String :=
  match topic with
  | none =>
    page "Compile route patterns into anchored regex matchers" "[OPTIONS] <COMMAND>"
      [verbGlossary, outerShape.glossary]
  | some v => page v.explanation (v.name ++ " " ++ v.call) v.glossaries

end CommandLine

end RoutePatterns
