import RoutePatterns.Json.Token

/-!
# JSON values

`read?` builds a value from the tokens of a text. The containers that are still open stand on a
stack, so the reader does one thing per token. An object keeps its members in the order in which
they are written, with repeated keys.
-/

namespace RoutePatterns

namespace Json

/-- A JSON value. Strings and keys without text are `none`. -/
inductive Value where
  | null
  | bool (b : Bool)
  | number (literal : String)
  | string (text : Option String)
  | array (items : List Value)
  | object (members : List (Option String × Value))
deriving Repr, Inhabited

namespace Value

/-- A string with a text. -/
def ofString (s : String) : Value := .string (some s)

/-- A natural number. -/
def ofNat (n : Nat) : Value := .number (toString n)

/-- An array of strings. -/
def ofStrings (l : List String) : Value := .array (l.map ofString)

/-- An object whose keys are given. -/
def ofMembers (members : List (String × Value)) : Value :=
  .object (members.map fun m => (some m.1, m.2))

end Value

/-- A container that is still open, with what it holds so far in reverse. -/
inductive Frame where
  | array (items : List Value)
  | object (members : List (Option String × Value))
  /-- An object, after a key and its colon. -/
  | member (members : List (Option String × Value)) (key : Option String)

/-- What may come next. -/
inductive Expecting where
  /-- A value. -/
  | value
  /-- A value or the end of the array that was just opened. -/
  | firstItem
  /-- A key. -/
  | key
  /-- A key or the end of the object that was just opened. -/
  | firstKey
  /-- The colon after a key. -/
  | colon (key : Option String)
  /-- A comma or the end of the innermost container. -/
  | next
  /-- Nothing: the value is complete. -/
  | done (v : Value)

/-- The open containers and what may come next. -/
structure Reading where
  stack : List Frame := []
  expecting : Expecting := .value

namespace Reading

/-- Puts a complete value into the innermost open container. -/
def complete (stack : List Frame) (v : Value) : Option Reading :=
  match stack with
  | [] => some ⟨[], .done v⟩
  | .array items :: stack => some ⟨.array (v :: items) :: stack, .next⟩
  | .member members key :: stack => some ⟨.object ((key, v) :: members) :: stack, .next⟩
  | .object _ :: _ => none

/-- Reads a token where a value may begin. -/
def beginValue (stack : List Frame) : Token → Option Reading
  | .null => complete stack .null
  | .bool b => complete stack (.bool b)
  | .number literal => complete stack (.number literal)
  | .string text => complete stack (.string text)
  | .openBracket => some ⟨.array [] :: stack, .firstItem⟩
  | .openBrace => some ⟨.object [] :: stack, .firstKey⟩
  | _ => none

/-- Reads a token. -/
def step (r : Reading) (t : Token) : Option Reading :=
  match r.expecting, t, r.stack with
  | .value, t, stack => beginValue stack t
  | .firstItem, .closeBracket, .array items :: stack => complete stack (.array items.reverse)
  | .firstItem, t, stack => beginValue stack t
  | .firstKey, .closeBrace, .object members :: stack => complete stack (.object members.reverse)
  | .firstKey, .string key, stack => some ⟨stack, .colon key⟩
  | .key, .string key, stack => some ⟨stack, .colon key⟩
  | .colon key, .colon, .object members :: stack => some ⟨.member members key :: stack, .value⟩
  | .next, .comma, .array items :: stack => some ⟨.array items :: stack, .value⟩
  | .next, .comma, .object members :: stack => some ⟨.object members :: stack, .key⟩
  | .next, .closeBracket, .array items :: stack => complete stack (.array items.reverse)
  | .next, .closeBrace, .object members :: stack => complete stack (.object members.reverse)
  | _, _, _ => none

/-- The value, if it is complete. -/
def result (r : Reading) : Option Value :=
  match r.expecting, r.stack with
  | .done v, [] => some v
  | _, _ => none

end Reading

/-- The value that a list of tokens denotes. -/
def Value.ofTokens? (tokens : List Token) : Option Value := do
  let r ← tokens.foldlM Reading.step ({} : Reading)
  r.result

/-- The value that a text denotes. -/
def Value.read? (s : String) : Option Value := do
  let tokens ← lex s
  Value.ofTokens? tokens

namespace Value

/-! ### Measures -/

mutual

/-- How deep arrays and objects are nested. -/
def depth : Value → Nat
  | array items => depthOfItems items + 1
  | object members => depthOfMembers members + 1
  | _ => 0

/-- The greatest depth of the items of an array. -/
def depthOfItems : List Value → Nat
  | [] => 0
  | v :: vs => max (depth v) (depthOfItems vs)

/-- The greatest depth of the values of an object. -/
def depthOfMembers : List (Option String × Value) → Nat
  | [] => 0
  | (_, v) :: ms => max (depth v) (depthOfMembers ms)

end

mutual

/-- Every scalar of the value, each key of an object as a string. -/
def leaves : Value → List Value
  | array items => leavesOfItems items
  | object members => leavesOfMembers members
  | v => [v]

/-- The scalars of the items of an array. -/
def leavesOfItems : List Value → List Value
  | [] => []
  | v :: vs => leaves v ++ leavesOfItems vs

/-- The keys and scalars of an object. -/
def leavesOfMembers : List (Option String × Value) → List Value
  | [] => []
  | (k, v) :: ms => .string k :: (leaves v ++ leavesOfMembers ms)

end

end Value

end Json

end RoutePatterns
