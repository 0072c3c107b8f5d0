import RoutePatterns.Log.Event
import RoutePatterns.Regex.Basic
import RoutePatterns.Unicode.Blank

/-!
# Filters of the log

A `Filter` is a list of directives, which are written with commas between them. A directive sets the
verbosity for the events whose target begins with a given text and that have given fields; of
several directives the most specific one decides. `Filter.read?` refuses a text with a wrong
directive, and `Filter.readLeniently` skips it.
-/

namespace RoutePatterns

namespace Log

/-- What a directive demands of a field. -/
structure FieldDemand where
  name : String
  /-- An expression for the value. -/
  value : Option String := none
deriving DecidableEq, Repr

/-- A directive. -/
structure Directive where
  /-- How the target of an event begins. -/
  target : Option String := none
  /-- The span that an event has to be in. -/
  span : Option String := none
  /-- The fields of an event. -/
  fields : List FieldDemand := []
  /-- Which of the events are logged. -/
  verbosity : Verbosity := .upTo .trace
deriving DecidableEq, Repr

/-- Why a directive cannot be read. -/
inductive DirectiveError where
  /-- It does not have the form of a directive. -/
  | malformed
  /-- There is no such verbosity. -/
  | verbosity
  /-- A field's value is no expression. -/
  | field
deriving DecidableEq, Repr

/-- The message for a reader. -/
def DirectiveError.message : DirectiveError → String
  | malformed => "invalid filter directive"
  | verbosity =>
    "error parsing level filter: expected one of \"off\", \"error\", \"warn\", \"info\", " ++
      "\"debug\", \"trace\", or a number 0-5"
  | field => "invalid field filter"

namespace FieldDemand

/-- Reads a field, perhaps with an expression for its value. -/
def read (cs : List Char) : Except DirectiveError FieldDemand :=
  let name := String.ofList (cs.takeWhile (· != '='))
  match cs.dropWhile (· != '=') with
  | [] => if cs.isEmpty then .error .malformed else .ok ⟨name, none⟩
  | _ :: rest =>
    let value := String.ofList (rest.takeWhile (· != '='))
    if (Regex.exprOfText? value).isSome then .ok ⟨name, some value⟩ else .error .field

end FieldDemand

namespace Directive

/-! ### Reading -/

/-- Sets the verbosity that is written after an equals sign; without one, everything is logged. -/
def withVerbosity (d : Directive) (cs : List Char) : Except DirectiveError Directive :=
  if cs.isEmpty then .ok d
  else
    match Verbosity.read? (String.ofList cs) with
    | some v => .ok { d with verbosity := v }
    | none => .error .verbosity

/-- Reads what follows the brackets. -/
def readEnd (d : Directive) (cs : List Char) : Except DirectiveError Directive :=
  match cs with
  | '=' :: rest => d.withVerbosity rest
  | cs => if cs.all Unicode.isBlank then .ok d else .error .malformed

/-- Reads the braces and what follows them. -/
def readFields (d : Directive) (cs : List Char) : Except DirectiveError Directive := do
  match cs.dropWhile (· != '\x7d') with
  | _ :: ']' :: rest =>
    let field ← FieldDemand.read (cs.takeWhile (· != '\x7d'))
    readEnd { d with fields := [field] } rest
  | _ => .error .malformed

/-- The end of a span's name. -/
def endsSpan (c : Char) : Bool := c == ']' || c == '\x7b'

/-- Reads what is inside the brackets and what follows them. -/
def readSpan (d : Directive) (cs : List Char) : Except DirectiveError Directive :=
  let name := cs.takeWhile fun c => !endsSpan c
  match cs.dropWhile fun c => !endsSpan c with
  | ']' :: rest => readEnd { d with span := some (String.ofList name) } rest
  | '\x7b' :: rest =>
    readFields { d with span := if name.isEmpty then none else some (String.ofList name) } rest
  | _ => .error .malformed

/-- The end of a target. -/
def endsTarget (c : Char) : Bool := c == '=' || c == '['

/-- A character that a directive may begin with. -/
def mayBegin (c : Char) : Bool :=
  c == '-' || c == ':' || c == '_' || Unicode.isAlphanumeric c

/-- Reads a word, which is a verbosity for all events or a target. -/
def ofWord (s : String) : Directive :=
  match Verbosity.read? s with
  | some v => { verbosity := v }
  | none => { target := some s }

/-- Reads a directive. Blanks before a word belong to it. -/
def read (s : String) : Except DirectiveError Directive :=
  let target := s.toList.takeWhile fun c => !endsTarget c
  let begin := target.dropWhile Unicode.isBlank
  match s.toList.dropWhile fun c => !endsTarget c with
  | [] => if begin.head?.any mayBegin then .ok (ofWord s) else .error .malformed
  | '=' :: rest =>
    if !target.head?.any mayBegin then .error .malformed
    else withVerbosity { target := some (String.ofList target) } rest
  | _ :: rest =>
    if target.isEmpty then readSpan {} rest
    else if !target.head?.any mayBegin then .error .malformed
    else readSpan { target := some (String.ofList target) } rest

/-! ### Deciding -/

/-- A directive decides on an event. Since no event is in a span, and the values of fields are known
for spans only, a directive with either demand decides on none. -/
def decides (d : Directive) (e : Event) : Bool :=
  d.span.isNone &&
    d.target.all (fun target => target.toList.isPrefixOf e.target.toList) &&
    d.fields.all fun f => f.value.isNone && e.hasField f.name

/-- How much of the target is given; more than nothing if any is. -/
def targetSize (d : Directive) : Nat := d.target.elim 0 fun target => target.utf8ByteSize + 1

/-- The names of the fields. -/
def fieldNames (d : Directive) : List String := d.fields.map FieldDemand.name

/-- The second directive goes before the first one: it gives more of the target, or as much of it
and more fields, or as many with names that come later in the order, or the very same. -/
def yieldsTo (d d' : Directive) : Bool :=
  decide (d.targetSize < d'.targetSize) ||
    d.targetSize == d'.targetSize &&
      (decide (d.fields.length < d'.fields.length) ||
        d.fields.length == d'.fields.length && !decide (d'.fieldNames < d.fieldNames))

end Directive

/-- A filter: its directives in the order in which they are written. -/
structure Filter where
  directives : List Directive := []

namespace Filter

/-- The most specific directive that decides on an event. -/
def deciding? (f : Filter) (e : Event) : Option Directive :=
  (f.directives.filter fun d => d.decides e).foldl
    (fun best d => if best.all fun b => b.yieldsTo d then some d else best) none

/-- An event is logged. A filter without directives lets errors pass. -/
def allows (f : Filter) (e : Event) : Bool :=
  if f.directives.isEmpty then Verbosity.includes (.upTo .error) e.severity
  else (f.deciding? e).any fun d => d.verbosity.includes e.severity

/-- The directives of a text. -/
def split (s : String) : List String :=
  (s.splitOn ",").filter fun d => !d.isEmpty

/-- Reads a filter, all of whose directives have to be right. -/
def read? (s : String) : Option Filter := do
  let directives ← (split s).mapM fun d => (Directive.read d).toOption
  return ⟨directives⟩

/-- Reads a filter without its wrong directives. -/
def readLeniently (s : String) : Filter :=
  ⟨(split s).filterMap fun d => (Directive.read d).toOption⟩

/-- What is wrong with a directive. -/
def complaint? (d : String) : Option String :=
  match Directive.read d with
  | .ok _ => none
  | .error e => some ("ignoring `" ++ d ++ "`: " ++ e.message)

/-- What is wrong with the directives of a text. -/
def complaints (s : String) : List String := (split s).filterMap complaint?

end Filter

end Log

end RoutePatterns
