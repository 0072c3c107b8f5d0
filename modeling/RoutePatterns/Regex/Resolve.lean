import RoutePatterns.Regex.Expr
import RoutePatterns.Regex.Reader
import RoutePatterns.Unicode.Property

/-!
# Applying flags

`Syntax.resolve?` turns an expression as it is written into the expression that it means. Flags hold
from where they are set to the end of the group around them. An expression that could match
something other than whole characters is refused, and so are the names of unknown properties.
-/

namespace RoutePatterns

namespace Regex

/-- The flags that decide what an expression means. -/
structure Flags where
  ignoreCase : Bool := false
  multiLine : Bool := false
  dotAll : Bool := false
  swapGreed : Bool := false
  unicode : Bool := true
  crlf : Bool := false
deriving DecidableEq, Repr

namespace Flags

/-- The flags after changes. -/
def change (f : Flags) (changes : FlagChanges) : Flags where
  ignoreCase := changes.setting .ignoreCase f.ignoreCase
  multiLine := changes.setting .multiLine f.multiLine
  dotAll := changes.setting .dotAll f.dotAll
  swapGreed := changes.setting .swapGreed f.swapGreed
  unicode := changes.setting .unicode f.unicode
  crlf := changes.setting .crlf f.crlf

/-- The characters that make up words. -/
def wordKind (f : Flags) : WordKind := if f.unicode then .unicode else .ascii

/-- The set with all characters that differ in case alone. -/
def fold (f : Flags) (s : CharSet) : CharSet :=
  if !f.ignoreCase then s else if f.unicode then .folded s else .asciiFolded s

/-- The set with all characters that differ in case alone, or its complement. Without Unicode it
has to be a set of ASCII. -/
def foldAndNegate? (f : Flags) (negated : Bool) (s : CharSet) : Option CharSet :=
  let s := f.fold s
  let s := if negated then .complement s else s
  if f.unicode || s.isAscii then some s else none

end Flags

/-- The condition that an assertion stands for. -/
def Assertion.resolve (f : Flags) : Assertion → Look
  | lineStart =>
    if f.multiLine then if f.crlf then .crlfLineStart else .lineStart else .textStart
  | lineEnd => if f.multiLine then if f.crlf then .crlfLineEnd else .lineEnd else .textEnd
  | textStart => .textStart
  | textEnd => .textEnd
  | wordBoundary => .wordBoundary f.wordKind
  | notWordBoundary => .notWordBoundary f.wordKind
  | wordStart => .wordStart f.wordKind
  | wordEnd => .wordEnd f.wordKind
  | wordStartHalf => .wordStartHalf f.wordKind
  | wordEndHalf => .wordEndHalf f.wordKind

namespace Literal

/-- A literal outside of a class stands for a character, not for a byte beyond ASCII. -/
def char? (f : Flags) (l : Literal) : Option Char :=
  if !f.unicode && l.isByte && l.char.toNat ≥ 128 then none else some l.char

/-- A literal inside of a class without Unicode has to be ASCII. -/
def classChar? (f : Flags) (l : Literal) : Option Char :=
  if !f.unicode && l.char.toNat ≥ 128 then none else some l.char

end Literal

/-- The class of a letter. -/
def LetterClass.resolve? (f : Flags) (negated : Bool) (c : LetterClass) : Option CharSet :=
  let s := if f.unicode then CharSet.letter c else .asciiLetter c
  if negated then if f.unicode then some (.complement s) else none else some s

/-- The characters with a property. -/
def PropertyQuery.resolve? : PropertyQuery → Option CharSet
  | named name => (Unicode.propertySet? name).map .codes
  | valued property value => (Unicode.valueSet? property value).map .codes

/-- The result of an operation. -/
def SetOperation.apply : SetOperation → CharSet → CharSet → CharSet
  | intersection, s, t => .intersection s t
  | difference, s, t => .difference s t
  | symmetricDifference, s, t => .symmetricDifference s t

/-- The set of a class. -/
def ClassSyntax.resolve? (f : Flags) : ClassSyntax → Option CharSet
  | empty => some .empty
  | char l => (l.classChar? f).map .single
  | range low high => do
    let low ← low.classChar? f
    let high ← high.classChar? f
    return .range low high
  | ascii c negated => f.foldAndNegate? negated (.codes c.ranges)
  | letter c negated => c.resolve? f negated
  | property q negated => do
    guard f.unicode
    f.foldAndNegate? negated (← q.resolve?)
  | bracket negated inner => do f.foldAndNegate? negated (← inner.resolve? f)
  | union a b => do
    let a ← a.resolve? f
    let b ← b.resolve? f
    return .union a b
  | operation op a b => do
    let a ← a.resolve? f
    let b ← b.resolve? f
    return op.apply (f.fold a) (f.fold b)

namespace Syntax

/-- The set that a dot stands for. -/
def dotSet (f : Flags) : CharSet :=
  if f.dotAll then .any
  else if f.crlf then .complement (.ofList ['\r', '\n'])
  else .complement (.single '\n')

/-- The expression that is meant under flags, and the flags after it. -/
def resolveWith? (f : Flags) : Syntax → Option (Expr × Flags)
  | empty => some (.empty, f)
  | flags changes => some (.empty, f.change changes)
  | char l => (l.char? f).map fun c => (.one (f.fold (.single c)), f)
  | dot => if f.unicode then some (.one (dotSet f), f) else none
  | assertion a => some (.look (a.resolve f), f)
  | set c => (c.resolve? f).map fun s => (.one s, f)
  | group (.capture name) e => (e.resolveWith? f).map fun r => (.capture name r.1, f)
  | group (.plain changes) e => (e.resolveWith? (f.change changes)).map fun r => (r.1, f)
  | repetition min max lazy e =>
    (e.resolveWith? f).map fun r => (.repetition min max (lazy == f.swapGreed) r.1, f)
  | cat a b => do
    let (a, f) ← a.resolveWith? f
    let (b, f) ← b.resolveWith? f
    return (.cat a b, f)
  | alt a b => do
    let (a, f) ← a.resolveWith? f
    let (b, f) ← b.resolveWith? f
    return (.alt a b, f)

/-- The expression that is meant. -/
def resolve? (e : Syntax) : Option Expr := (e.resolveWith? {}).map Prod.fst

end Syntax

end Regex

end RoutePatterns
