import RoutePatterns.Pattern.Basic

/-!
# Arguments of the command line

`Invocation.ofArguments` reads the arguments: a verb, and what it is applied to. The value of an
option follows as the next argument, unless that begins with a hyphen, or is attached to the option;
two hyphens end the options. The option for the log level may stand before the verb or after it, and
the value after it counts. A request for help ends the reading, and so does the first mistake.
-/

namespace RoutePatterns

namespace CommandLine

/-- What is to be done. -/
inductive Command where
  /-- Compile a pattern. -/
  | compile (p : Pattern)
  /-- Build the table of a file and list it. -/
  | check (file : String)
  /-- Build the table of a file, and again whenever the file changes. -/
  | watch (file : String)
deriving DecidableEq

/-- The file that a command reads. -/
def Command.file? : Command → Option String
  | compile _ => none
  | check file => some file
  | watch file => some file

/-- A command and how much is logged. -/
structure Invocation where
  logLevel : Option String := none
  command : Command
deriving DecidableEq

/-! ### Options -/

/-- An option with a value. -/
inductive Setting where
  | logLevel
  | path
  | host
  | override
deriving DecidableEq, Repr

namespace Setting

/-- The name after two hyphens. -/
def name : Setting → String
  | logLevel => "log-level"
  | path => "path"
  | host => "host"
  | override => "where"

/-- The letter after one hyphen. -/
def letter? : Setting → Option Char
  | logLevel => none
  | path => some 'p'
  | host => none
  | override => some 'w'

end Setting

/-- The options that may be given, in the order in which they are listed, and whether a file may be
named. -/
structure Shape where
  settings : List Setting
  takesFile : Bool := false
deriving DecidableEq, Repr

/-! ### Verbs -/

/-- The word that says what is to be done. -/
inductive Verb where
  | compile
  | check
  | watch
  | help
deriving DecidableEq, Repr

namespace Verb

/-- All verbs, in the order in which they are listed. -/
def all : List Verb := [compile, check, watch, help]

/-- How the verb is written. -/
def name : Verb → String
  | compile => "compile"
  | check => "check"
  | watch => "watch"
  | help => "help"

/-- The verb that a word is. -/
def ofName? (word : String) : Option Verb := all.find? fun v => v.name == word

/-- What may follow the verb. -/
def shape : Verb → Shape
  | compile => { settings := [.logLevel, .path, .host, .override] }
  | check => { settings := [.logLevel], takesFile := true }
  | watch => { settings := [.logLevel], takesFile := true }
  | help => { settings := [] }

end Verb

/-! ### Arguments one by one -/

/-- What an argument is. -/
inductive Item where
  /-- A request for help. -/
  | help
  /-- The end of the options. -/
  | endOfOptions
  /-- An option with its value. -/
  | setting (s : Setting) (value : String)
  /-- An option whose value is the next argument. -/
  | awaiting (s : Setting)
  /-- A word. -/
  | word (s : String)
  /-- An option that may not be given. -/
  | unknown
deriving DecidableEq, Repr

/-- An option with the value that is attached to it, if there is one. -/
def Item.ofSetting (s : Option Setting) (value : Option (List Char)) : Item :=
  match s, value with
  | some s, some value => setting s (String.ofList value)
  | some s, none => awaiting s
  | none, _ => unknown

namespace Shape

/-- The option with a name. -/
def named? (shape : Shape) (name : List Char) : Option Setting :=
  shape.settings.find? fun s => s.name.toList == name

/-- The option with a letter. -/
def lettered? (shape : Shape) (letter : Char) : Option Setting :=
  shape.settings.find? fun s => s.letter? == some letter

/-- What follows two hyphens: a name, perhaps an equals sign and a value. -/
def namedItem (shape : Shape) (name : List Char) (value : Option (List Char)) : Item :=
  if name == "help".toList && value.isNone then .help else .ofSetting (shape.named? name) value

/-- What follows one hyphen: a letter, perhaps an equals sign, perhaps a value. -/
def letteredItem (shape : Shape) (letter : Char) (rest : List Char) : Item :=
  if letter == 'h' then .help
  else
    .ofSetting (shape.lettered? letter)
      (match rest with
        | [] => none
        | '=' :: value => some value
        | value => some value)

/-- What an argument is. A lone hyphen is a word. -/
def item (shape : Shape) (arg : String) : Item :=
  match arg.toList with
  | ['-', '-'] => .endOfOptions
  | '-' :: '-' :: rest =>
    shape.namedItem (rest.takeWhile (· != '=')) (rest.dropWhile (· != '=')).tail?
  | '-' :: letter :: rest => shape.letteredItem letter rest
  | _ => .word arg

end Shape

/-- An argument that can be the value of the option before it. -/
def isValue (arg : String) : Bool :=
  match arg.toList with
  | '-' :: _ :: _ => false
  | _ => true

/-! ### Reading -/

/-- Why reading stops before the arguments end. -/
inductive Stop where
  /-- Help is asked for, on a verb or on all of them. -/
  | help (topic : Option Verb)
  /-- The arguments are wrong. -/
  | misuse
deriving DecidableEq, Repr

/-- What has been read. -/
structure Draft where
  logLevel : Option String := none
  path : Option String := none
  host : Option String := none
  overrides : Bindings := .empty
  file : Option String := none

/-- A name that is not empty and an expression, with an equals sign between them. -/
def override? (s : String) : Option (String × String) :=
  match s.toList.dropWhile (· != '=') with
  | _ :: expression =>
    let name := s.toList.takeWhile (· != '=')
    if name.isEmpty then none else some (String.ofList name, String.ofList expression)
  | [] => none

/-- Sets what may be set once. -/
def setOnce (old : Option String) (value : String) : Except Stop (Option String) :=
  if old.isSome then .error .misuse else .ok (some value)

namespace Draft

/-- Sets an option. -/
def set (d : Draft) (setting : Setting) (value : String) : Except Stop Draft :=
  match setting with
  | .logLevel => (setOnce d.logLevel value).map fun v => { d with logLevel := v }
  | .path => (setOnce d.path value).map fun v => { d with path := v }
  | .host => (setOnce d.host value).map fun v => { d with host := v }
  | .override =>
    match override? value with
    | some (name, expression) => .ok { d with overrides := d.overrides.insert name expression }
    | none => .error .misuse

/-- Takes a word as the name of the file, which is not empty. -/
def place (verb : Verb) (d : Draft) (word : String) : Except Stop Draft :=
  if verb.shape.takesFile && !word.isEmpty then
    (setOnce d.file word).map fun v => { d with file := v }
  else .error .misuse

/-- Takes words, of which there may be one at most. -/
def placeAll (verb : Verb) (d : Draft) : List String → Except Stop Draft
  | [] => .ok d
  | word :: rest => do placeAll verb (← d.place verb word) rest

/-- Reads the arguments of a verb. -/
def read (verb : Verb) (d : Draft) : List String → Except Stop Draft
  | [] => .ok d
  | arg :: rest =>
    match verb.shape.item arg with
    | .help => .error (.help verb)
    | .unknown => .error .misuse
    | .endOfOptions => placeAll verb d rest
    | .word word => do read verb (← d.place verb word) rest
    | .setting s value => do read verb (← d.set s value) rest
    | .awaiting s =>
      match rest with
      | value :: rest =>
        if isValue value then do read verb (← d.set s value) rest else .error .misuse
      | [] => .error .misuse

end Draft

/-- What has to be given. -/
def required {α : Type} : Option α → Except Stop α
  | some x => .ok x
  | none => .error .misuse

/-- What help is given on. The words after the verb `help` are taken as they stand. -/
def helpTopic (words : List String) : Stop :=
  match words with
  | [] => .help none
  | [word] =>
    match Verb.ofName? word with
    | some verb => .help verb
    | none => .misuse
  | _ => .misuse

/-- Reads a verb with its arguments. The log level before the verb is `outer`. -/
def Invocation.read (outer : Option String) (verb : Verb) (args : List String) :
    Except Stop Invocation := do
  match verb with
  | .compile =>
    let d ← Draft.read verb {} args
    let path ← required d.path
    return ⟨d.logLevel.or outer, .compile ⟨d.host.getD "", path, d.overrides⟩⟩
  | .check =>
    let d ← Draft.read verb {} args
    return ⟨d.logLevel.or outer, .check (← required d.file)⟩
  | .watch =>
    let d ← Draft.read verb {} args
    return ⟨d.logLevel.or outer, .watch (← required d.file)⟩
  | .help => .error (helpTopic args)

/-- What may stand before the verb. -/
def outerShape : Shape := { settings := [.logLevel] }

/-- Reads all arguments after those that set the log level to `outer`. -/
def readFrom (outer : Option String) : List String → Except Stop Invocation
  | [] => .error .misuse
  | arg :: rest =>
    match outerShape.item arg with
    | .help => .error (.help none)
    | .unknown | .endOfOptions => .error .misuse
    | .word word => do Invocation.read outer (← required (Verb.ofName? word)) rest
    | .setting _ value => do readFrom (← setOnce outer value) rest
    | .awaiting _ =>
      match rest with
      | value :: rest =>
        if isValue value then do readFrom (← setOnce outer value) rest else .error .misuse
      | [] => .error .misuse

/-- Reads the arguments. -/
def Invocation.ofArguments (args : List String) : Except Stop Invocation := readFrom none args

end CommandLine

end RoutePatterns
