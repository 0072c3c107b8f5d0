import RoutePatterns.Regex.Syntax
import RoutePatterns.Unicode.Blank
import RoutePatterns.Unicode.Word

/-!
# Reading regular expressions

`Syntax.read?` reads the text of a regular expression. The reader takes one lexeme at a time: a
literal, an escape, the opening of a group with all that belongs to it, a repetition operator, or a
part of a character class. Groups and classes that are still open stand on stacks. Look-around,
back-references and anything else that is not listed is refused.
-/

namespace RoutePatterns

namespace Regex

/-! ### Blanks and comments -/

/-- Drops blanks and comments if the expression is verbose; `comment` if a comment has begun. -/
def skipFrom (verbose comment : Bool) : List Char → List Char
  | [] => []
  | c :: cs =>
    if !verbose then c :: cs
    else if comment then skipFrom verbose (c != '\n') cs
    else if Unicode.isBlank c then skipFrom verbose false cs
    else if c == '#' then skipFrom verbose true cs
    else c :: cs

/-- Drops blanks and comments if the expression is verbose. -/
def skip (verbose : Bool) (cs : List Char) : List Char := skipFrom verbose false cs

/-- Splits off at most `limit` characters with a property; blanks and comments around them are
dropped if the expression is verbose. -/
def spanFrom (verbose : Bool) (p : Char → Bool) (limit : Nat) (comment : Bool) :
    List Char → List Char × List Char
  | [] => ([], [])
  | c :: cs =>
    if comment then spanFrom verbose p limit (c != '\n') cs
    else if verbose && Unicode.isBlank c then spanFrom verbose p limit false cs
    else if verbose && c == '#' then spanFrom verbose p limit true cs
    else
      match limit with
      | 0 => ([], c :: cs)
      | limit + 1 =>
        if p c then
          let (taken, rest) := spanFrom verbose p limit false cs
          (c :: taken, rest)
        else ([], c :: cs)

/-- Splits off the characters with a property. -/
def span (verbose : Bool) (p : Char → Bool) (cs : List Char) : List Char × List Char :=
  spanFrom verbose p cs.length false cs

/-- The next character that is not blank. A comment sign is passed over once, but not the comment
after it. -/
def peekFrom (comment : Bool) : List Char → Option Char
  | [] => none
  | c :: cs =>
    if Unicode.isBlank c then peekFrom comment cs
    else if !comment && c == '#' then peekFrom true cs
    else some c

/-- The character after a hyphen that decides whether the hyphen makes a range. -/
def peek (verbose : Bool) (cs : List Char) : Option Char :=
  if verbose then (peekFrom false cs).or cs.head? else cs.head?

/-! ### Numbers -/

/-- The value of a hexadecimal digit. -/
def hexValue? (c : Char) : Option Nat :=
  if c.isDigit then some (c.toNat - 48)
  else if 'a' ≤ c ∧ c ≤ 'f' then some (c.toNat - 87)
  else if 'A' ≤ c ∧ c ≤ 'F' then some (c.toNat - 55)
  else none

/-- The character with a code point, if there is one. -/
def charOfCode? (n : Nat) : Option Char := if n.isValidChar then some (Char.ofNat n) else none

/-- The character whose code point is written in hexadecimal digits. -/
def hexChar? (digits : List Char) : Option Char := do
  guard !digits.isEmpty
  let values ← digits.mapM hexValue?
  charOfCode? (values.foldl (fun n d => n * 16 + d) 0)

/-- The number that is written in decimal digits, with blanks around it; no more than a 32-bit
number. -/
def decimal (verbose : Bool) (cs : List Char) : Option Nat × List Char :=
  let (digits, rest) := span verbose Char.isDigit (cs.dropWhile Unicode.isBlank)
  let value := digits.foldl (fun n c => n * 10 + (c.toNat - 48)) 0
  (if digits.isEmpty || value ≥ Nat.pow 2 32 then none else some value,
    rest.dropWhile Unicode.isBlank)

/-! ### Escapes -/

/-- What an escape stands for. -/
inductive Escape where
  | char (l : Literal)
  | letter (c : LetterClass) (negated : Bool)
  | property (q : PropertyQuery) (negated : Bool)
  | assertion (a : Assertion)
deriving DecidableEq, Repr

/-- The characters that mean something by themselves, outside or inside of a class. -/
def isMeta (c : Char) : Bool :=
  ['\\', '.', '+', '*', '?', '(', ')', '|', '[', ']', '\x7b', '\x7d', '^', '$', '#', '&', '-',
    '~'].contains c

/-- A character that stands for itself after a backslash. -/
def isEscapable (c : Char) : Bool :=
  isMeta c || (c.toNat < 128 && !c.isAlphanum && c != '<' && c != '>')

/-- The code point after `\x`, `\u` or `\U`, of `digits` digits or in braces. -/
def hexEscape? (verbose : Bool) (digits : Nat) (cs : List Char) : Option (Literal × List Char) :=
  match skip verbose cs with
  | '\x7b' :: cs =>
    match span verbose (· != '\x7d') cs with
    | (code, _ :: rest) => (hexChar? code).map fun c => (⟨c, false⟩, rest)
    | _ => none
  | cs => do
    let (code, rest) := spanFrom verbose (fun c => (hexValue? c).isSome) digits false cs
    guard (code.length = digits)
    let c ← hexChar? code
    return (⟨c, digits == 2⟩, rest)

/-- Splits a list before and after the first occurrence of another list in it. -/
def splitAt? (sep : List Char) : List Char → Option (List Char × List Char)
  | [] => none
  | c :: cs =>
    if sep.isPrefixOf (c :: cs) then some ([], (c :: cs).drop sep.length)
    else (splitAt? sep cs).map fun r => (c :: r.1, r.2)

/-- The property that is written between braces. -/
def propertyQuery (cs : List Char) : PropertyQuery :=
  match (splitAt? ['!', '='] cs).or ((splitAt? [':'] cs).or (splitAt? ['='] cs)) with
  | some (name, value) => .valued (String.ofList name) (String.ofList value)
  | none => .named (String.ofList cs)

/-- The property after `\p` or `\P`. -/
def propertyEscape? (verbose : Bool) (cs : List Char) : Option (PropertyQuery × List Char) :=
  match skip verbose cs with
  | '\x7b' :: cs =>
    match span verbose (· != '\x7d') cs with
    | (query, _ :: rest) => some (propertyQuery query, rest)
    | _ => none
  | '\\' :: _ => none
  | c :: rest => some (.named (String.singleton c), rest)
  | [] => none

/-- A character of the name of a word boundary. -/
def isBoundaryName (c : Char) : Bool := c.isAlpha || c == '-'

/-- The word boundary of a name. -/
def boundaryOfName? : String → Option Assertion
  | "start" => some .wordStart
  | "end" => some .wordEnd
  | "start-half" => some .wordStartHalf
  | "end-half" => some .wordEndHalf
  | _ => none

/-- The word boundary after `\b`. Braces name a special one, unless they hold a count. -/
def boundaryEscape? (verbose : Bool) (cs : List Char) : Option (Assertion × List Char) :=
  match cs with
  | '\x7b' :: inner =>
    match span verbose isBoundaryName inner with
    | ([], []) => none
    | ([], _) => some (.wordBoundary, cs)
    | (name, '\x7d' :: rest) => (boundaryOfName? (String.ofList name)).map fun a => (a, rest)
    | _ => none
  | _ => some (.wordBoundary, cs)

/-- The escape after a backslash, and the text after it. -/
def escape? (verbose : Bool) : List Char → Option (Escape × List Char)
  | [] => none
  | c :: cs =>
    match c with
    | 'x' => (hexEscape? verbose 2 cs).map fun r => (.char r.1, r.2)
    | 'u' => (hexEscape? verbose 4 cs).map fun r => (.char r.1, r.2)
    | 'U' => (hexEscape? verbose 8 cs).map fun r => (.char r.1, r.2)
    | 'p' => (propertyEscape? verbose cs).map fun r => (.property r.1 false, r.2)
    | 'P' => (propertyEscape? verbose cs).map fun r => (.property r.1 true, r.2)
    | 'd' => some (.letter .digit false, cs)
    | 's' => some (.letter .space false, cs)
    | 'w' => some (.letter .word false, cs)
    | 'D' => some (.letter .digit true, cs)
    | 'S' => some (.letter .space true, cs)
    | 'W' => some (.letter .word true, cs)
    | 'a' => some (.char ⟨'\x07', false⟩, cs)
    | 'f' => some (.char ⟨'\x0c', false⟩, cs)
    | 't' => some (.char ⟨'\t', false⟩, cs)
    | 'n' => some (.char ⟨'\n', false⟩, cs)
    | 'r' => some (.char ⟨'\r', false⟩, cs)
    | 'v' => some (.char ⟨'\x0b', false⟩, cs)
    | 'A' => some (.assertion .textStart, cs)
    | 'z' => some (.assertion .textEnd, cs)
    | 'b' => (boundaryEscape? verbose cs).map fun r => (.assertion r.1, r.2)
    | 'B' => some (.assertion .notWordBoundary, cs)
    | '<' => some (.assertion .wordStart, cs)
    | '>' => some (.assertion .wordEnd, cs)
    | c => if isEscapable c then some (.char ⟨c, false⟩, cs) else none

namespace Escape

/-- An escape outside of a class. -/
def toSyntax : Escape → Syntax
  | char l => .char l
  | letter c negated => .set (.letter c negated)
  | property q negated => .set (.property q negated)
  | assertion a => .assertion a

/-- An escape inside of a class, where assertions are refused. -/
def toClass? : Escape → Option ClassSyntax
  | char l => some (.char l)
  | letter c negated => some (.letter c negated)
  | property q negated => some (.property q negated)
  | assertion _ => none

end Escape

/-! ### Groups -/

/-- The flag of a letter. -/
def flagOfChar? : Char → Option Flag
  | 'i' => some .ignoreCase
  | 'm' => some .multiLine
  | 's' => some .dotAll
  | 'U' => some .swapGreed
  | 'u' => some .unicode
  | 'R' => some .crlf
  | 'x' => some .verbose
  | _ => none

/-- The flags that are written before a colon or a closing parenthesis, each at most once; after a
hyphen, of which there is at most one and not at the end, they are cleared. -/
def flagChanges? (changes : FlagChanges) (negated last : Bool) :
    List Char → Option (FlagChanges × Char × List Char)
  | [] => none
  | c :: cs =>
    if c == ':' || c == ')' then if last then none else some (changes, c, cs)
    else if c == '-' then if negated then none else flagChanges? changes true true cs
    else do
      let flag ← flagOfChar? c
      guard !(changes.any fun change => change.1 == flag)
      flagChanges? (changes ++ [(flag, !negated)]) negated false cs

/-- The setting of a flag after changes. -/
def FlagChanges.setting (changes : FlagChanges) (flag : Flag) (before : Bool) : Bool :=
  (changes.lookup flag).getD before

/-- A character that the name of a group may begin with. -/
def isNameStart (c : Char) : Bool := c == '_' || Unicode.isAlphabetic c

/-- A character that the name of a group may go on with. -/
def isNameRest (c : Char) : Bool :=
  c == '_' || c == '.' || c == '[' || c == ']' || Unicode.isAlphanumeric c

/-- The name of a group up to the closing angle bracket. -/
def groupName? (cs : List Char) : Option (String × List Char) :=
  match cs.takeWhile (· != '>'), cs.dropWhile (· != '>') with
  | c :: name, _ :: rest =>
    if isNameStart c && name.all isNameRest then some (String.ofList (c :: name), rest) else none
  | _, _ => none

/-- What comes with an opening parenthesis. -/
inductive Opening where
  /-- The start of a group. -/
  | group (kind : GroupKind)
  /-- Flags for the rest of the group around them. -/
  | flags (changes : FlagChanges)
deriving DecidableEq, Repr

/-- The text after an opening parenthesis. -/
def opening? (verbose : Bool) (cs : List Char) : Option (Opening × List Char) :=
  match skip verbose cs with
  | '?' :: 'P' :: '<' :: cs => (groupName? cs).map fun r => (.group (.capture (some r.1)), r.2)
  | '?' :: '<' :: cs => (groupName? cs).map fun r => (.group (.capture (some r.1)), r.2)
  | '?' :: cs => do
    let (changes, ending, rest) ← flagChanges? [] false false cs
    if ending == ':' then return (.group (.plain changes), rest)
    guard !changes.isEmpty
    return (.flags changes, rest)
  | cs => some (.group (.capture none), cs)

/-! ### Repetitions -/

/-- How often something is repeated. -/
structure Count where
  min : Nat
  max : Option Nat
deriving DecidableEq, Repr

/-- The count between braces, after the opening one. -/
def count? (verbose : Bool) (cs : List Char) : Option (Count × List Char) :=
  match decimal verbose (skip verbose cs) with
  | (some min, '\x7d' :: rest) => some (⟨min, some min⟩, rest)
  | (some min, ',' :: rest) =>
    match skip verbose rest with
    | '\x7d' :: rest => some (⟨min, none⟩, rest)
    | rest =>
      match decimal verbose rest with
      | (some max, '\x7d' :: rest) => if min ≤ max then some (⟨min, some max⟩, rest) else none
      | _ => none
  | _ => none

/-- Splits off the question mark that makes a repetition lazy. -/
def lazyMark : List Char → Bool × List Char
  | '?' :: cs => (true, cs)
  | cs => (false, cs)

/-- The repetition operator that a text begins with. -/
def operator? (verbose : Bool) : List Char → Option (Count × Bool × List Char)
  | '?' :: cs => some (⟨0, some 1⟩, lazyMark cs)
  | '*' :: cs => some (⟨0, none⟩, lazyMark cs)
  | '+' :: cs => some (⟨1, none⟩, lazyMark cs)
  | '\x7b' :: cs => (count? verbose cs).map fun r => (r.1, lazyMark (skip verbose r.2))
  | _ => none

/-! ### Classes -/

/-- A class that is still open. -/
inductive ClassFrame where
  /-- A bracket, after the items of the class around it, which are in reverse. -/
  | bracket (negated : Bool) (before : List ClassSyntax)
  /-- An operation, after its left side. -/
  | operation (op : SetOperation) (left : ClassSyntax)
deriving Repr

/-- The open classes, and the items of the innermost one in reverse. -/
structure ClassReading where
  frames : List ClassFrame
  items : List ClassSyntax
deriving Repr

namespace ClassReading

/-- The class of the items read so far, as the right side of an operation if one is open. -/
def close (r : ClassReading) : ClassSyntax × List ClassFrame :=
  let right := ClassSyntax.ofItems r.items.reverse
  match r.frames with
  | .operation op left :: frames => (.operation op left right, frames)
  | frames => (right, frames)

/-- Adds an item. -/
def push (r : ClassReading) (item : ClassSyntax) : ClassReading :=
  { r with items := item :: r.items }

/-- Begins the right side of an operation. -/
def operate (r : ClassReading) (op : SetOperation) : ClassReading :=
  let (left, frames) := r.close
  ⟨.operation op left :: frames, []⟩

end ClassReading

/-- Splits off hyphens at the start of a class. -/
def leadingHyphens (verbose : Bool) (cs : List Char) : Nat × List Char :=
  let (hyphens, rest) := span verbose (· == '-') cs
  (hyphens.length, rest)

/-- Opens a bracket, after the opening one: a circumflex negates it, and hyphens or a closing
bracket at its start stand for themselves. -/
def openBracket (verbose : Bool) (r : ClassReading) (cs : List Char) : ClassReading × List Char :=
  let (negated, cs) := match skip verbose cs with
    | '^' :: cs => (true, cs)
    | cs => (false, cs)
  let (hyphens, cs) := leadingHyphens verbose cs
  let items := List.replicate hyphens (ClassSyntax.char ⟨'-', false⟩)
  let r : ClassReading := ⟨.bracket negated r.items :: r.frames, items⟩
  match hyphens, cs with
  | 0, ']' :: cs => (r.push (.char ⟨']', false⟩), cs)
  | _, _ => (r, cs)

/-- The named class after an opening bracket, if there is one. -/
def asciiClass? (cs : List Char) : Option (ClassSyntax × List Char) :=
  match cs with
  | ':' :: cs =>
    let (negated, cs) := match cs with
      | '^' :: cs => (true, cs)
      | cs => (false, cs)
    match cs.dropWhile (· != ':') with
    | ':' :: ']' :: rest =>
      (AsciiClass.ofName? (String.ofList (cs.takeWhile (· != ':')))).map fun c =>
        (.ascii c negated, rest)
    | _ => none
  | _ => none

/-- A single item of a class: a character or an escape. -/
def classItem? (verbose : Bool) : List Char → Option (ClassSyntax × List Char)
  | [] => none
  | '\\' :: cs => do
    let (e, rest) ← escape? verbose cs
    return (← e.toClass?, rest)
  | c :: cs => some (.char ⟨c, false⟩, cs)

/-- An item of a class or a range of characters. -/
def classRange? (verbose : Bool) (cs : List Char) : Option (ClassSyntax × List Char) := do
  let (low, rest) ← classItem? verbose cs
  match skip verbose rest with
  | '-' :: rest =>
    if peek verbose rest = some ']' ∨ peek verbose rest = some '-' then
      return (low, '-' :: rest)
    else
      match low, ← classItem? verbose (skip verbose rest) with
      | .char low, (.char high, rest) =>
        if low.char ≤ high.char then return (.range low high, rest) else none
      | _, _ => none
  | rest => return (low, rest)

/-! ### The reader -/

/-- A group that is still open. -/
structure Frame where
  /-- What the group is for. -/
  kind : GroupKind
  /-- The branches before the one that holds the group, in reverse. -/
  branches : List Syntax
  /-- The parts before the group, in reverse. -/
  items : List Syntax
  /-- The text around the group is verbose. -/
  verbose : Bool
deriving Repr

/-- What has been read. -/
structure Reader where
  /-- The open groups. -/
  frames : List Frame := []
  /-- The finished branches of the innermost group, in reverse. -/
  branches : List Syntax := []
  /-- The parts of the current branch, in reverse. -/
  items : List Syntax := []
  /-- Blanks and comments are passed over. -/
  verbose : Bool := false
  /-- The names of groups. -/
  names : List String := []
  /-- The open classes, inside of a class. -/
  inClass : Option ClassReading := none
deriving Repr

namespace Reader

/-- Adds a part. -/
def push (r : Reader) (e : Syntax) : Reader := { r with items := e :: r.items }

/-- The expression of the innermost group. -/
def body (r : Reader) : Syntax := Syntax.ofBranches r.branches (Syntax.ofItems r.items.reverse)

/-- Opens a group; no two groups have the same name. -/
def openGroup (r : Reader) (kind : GroupKind) : Option Reader :=
  let frames := ⟨kind, r.branches, r.items, r.verbose⟩ :: r.frames
  let r := { r with frames := frames, branches := [], items := [] }
  match kind with
  | .capture none => some r
  | .capture (some name) =>
    if r.names.contains name then none else some { r with names := name :: r.names }
  | .plain changes => some { r with verbose := changes.setting .verbose r.verbose }

/-- Closes the innermost group. -/
def closeGroup (r : Reader) : Option Reader :=
  match r.frames with
  | [] => none
  | f :: frames =>
    some { r with
      frames := frames, branches := f.branches, verbose := f.verbose
      items := .group f.kind r.body :: f.items }

/-- Begins the next branch. -/
def nextBranch (r : Reader) : Reader :=
  { r with branches := Syntax.ofItems r.items.reverse :: r.branches, items := [] }

/-- Repeats the last part. -/
def repeatLast (r : Reader) (count : Count) (lazy : Bool) : Option Reader :=
  match r.items with
  | e :: items =>
    if e.isRepeatable then some { r with items := .repetition count.min count.max lazy e :: items }
    else none
  | [] => none

/-- Reads a lexeme outside of classes from a text that does not begin with a blank to pass over. -/
def outside (r : Reader) : List Char → Option (Reader × List Char)
  | [] => none
  | '(' :: cs => do
    match ← opening? r.verbose cs with
    | (.group kind, rest) => return (← r.openGroup kind, rest)
    | (.flags changes, rest) =>
      let verbose := changes.setting .verbose r.verbose
      return ({ r.push (.flags changes) with verbose := verbose }, rest)
  | ')' :: cs => r.closeGroup.map fun r => (r, cs)
  | '|' :: cs => some (r.nextBranch, cs)
  | '[' :: cs =>
    let (c, rest) := openBracket r.verbose ⟨[], []⟩ cs
    some ({ r with inClass := some c }, rest)
  | '\\' :: cs => (escape? r.verbose cs).map fun e => (r.push e.1.toSyntax, e.2)
  | '.' :: cs => some (r.push .dot, cs)
  | '^' :: cs => some (r.push (.assertion .lineStart), cs)
  | '$' :: cs => some (r.push (.assertion .lineEnd), cs)
  | c :: cs =>
    if c == '?' || c == '*' || c == '+' || c == '\x7b' then do
      let (count, lazy, rest) ← operator? r.verbose (c :: cs)
      return (← r.repeatLast count lazy, rest)
    else some (r.push (.char ⟨c, false⟩), cs)

/-- Goes on after a class of which some brackets are still open, or none. -/
def continueClass (r : Reader) (c : ClassReading) : Reader := { r with inClass := some c }

/-- Closes the innermost bracket. -/
def closeBracket (r : Reader) (c : ClassReading) : Option Reader :=
  match c.close with
  | (inner, [.bracket negated _]) =>
    some { r with inClass := none, items := .set (.bracket negated inner) :: r.items }
  | (inner, .bracket negated before :: frames) =>
    some (r.continueClass ⟨frames, .bracket negated inner :: before⟩)
  | _ => none

/-- Reads a lexeme inside of a class from a text that does not begin with a blank to pass over. -/
def inside (r : Reader) (c : ClassReading) (cs : List Char) : Option (Reader × List Char) :=
  match cs with
  | [] => none
  | '[' :: rest =>
    match asciiClass? rest with
    | some (item, rest) => some (r.continueClass (c.push item), rest)
    | none =>
      let (c, rest) := openBracket r.verbose c rest
      some (r.continueClass c, rest)
  | ']' :: rest => (r.closeBracket c).map fun r => (r, rest)
  | '&' :: '&' :: rest => some (r.continueClass (c.operate .intersection), rest)
  | '-' :: '-' :: rest => some (r.continueClass (c.operate .difference), rest)
  | '~' :: '~' :: rest => some (r.continueClass (c.operate .symmetricDifference), rest)
  | cs => (classRange? r.verbose cs).map fun i => (r.continueClass (c.push i.1), i.2)

/-- Reads a lexeme. -/
def step (r : Reader) (cs : List Char) : Option (Reader × List Char) :=
  match r.inClass with
  | none => r.outside cs
  | some c => r.inside c cs

/-- The expression, when the text has been read to its end. -/
def finish (r : Reader) : Option Syntax :=
  match r.inClass, r.frames with
  | none, [] => some r.body
  | _, _ => none

/-- Reads at most `fuel` lexemes of a text. -/
def runFor (fuel : Nat) (r : Reader) (cs : List Char) : Option Syntax :=
  match skip r.verbose cs with
  | [] => r.finish
  | c :: cs =>
    match fuel with
    | 0 => none
    | fuel + 1 =>
      match r.step (c :: cs) with
      | some (r, rest) => runFor fuel r rest
      | none => none

/-- A text that was read to its end is read in the same way with more fuel. -/
theorem runFor_eq_some_of_le {fuel fuel' : Nat} {r : Reader} {cs : List Char} {e : Syntax}
    (hle : fuel ≤ fuel') (h : r.runFor fuel cs = some e) : r.runFor fuel' cs = some e := by
  induction fuel generalizing fuel' r cs with
  | zero =>
    rw [runFor] at h ⊢
    cases hskip : skip r.verbose cs with
    | nil => simpa only [hskip] using h
    | cons c cs' => simp only [hskip, reduceCtorEq] at h
  | succ n ih =>
    obtain ⟨m, rfl⟩ : ∃ m, fuel' = m + 1 := ⟨fuel' - 1, by omega⟩
    rw [runFor] at h ⊢
    cases hskip : skip r.verbose cs with
    | nil => simpa only [hskip] using h
    | cons c cs' =>
      simp only [hskip] at h ⊢
      cases hstep : r.step (c :: cs') with
      | none => simp only [hstep, reduceCtorEq] at h
      | some next =>
        simp only [hstep] at h ⊢
        exact ih (by omega) h

/-- Reads a text. No lexeme is empty, so there are at most as many as characters. -/
def run (r : Reader) (cs : List Char) : Option Syntax := r.runFor cs.length cs

end Reader

/-- The expression that a text denotes. -/
def Syntax.read? (s : String) : Option Syntax := Reader.run {} s.toList

end Regex

end RoutePatterns
