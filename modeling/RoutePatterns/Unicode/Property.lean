import RoutePatterns.Unicode.Age
import RoutePatterns.Unicode.Boundary
import RoutePatterns.Unicode.ScriptExtension

/-!
# Character properties by name

`propertySet?` finds the characters of a binary property, a general category or a script by name,
and `valueSet?` those that have a given value of a property: of the general category, the script,
the script extensions, the age, or one of the three properties of text boundaries. Names are
compared loosely: case, spaces, hyphens, underscores and an initial `is` do not count.
-/

namespace RoutePatterns

namespace Unicode

/-! ### Names -/

/-- The letters of a name that count, in lower case. -/
def looseLetters (cs : List Char) : List Char :=
  (cs.filter fun c => c.toNat < 128 && c != ' ' && c != '_' && c != '-').map Char.toLower

/-- A name in the form in which names are compared. -/
def looseName (name : String) : String :=
  match name.toList with
  | i :: s :: rest =>
    if i.toLower == 'i' && s.toLower == 's' then
      if looseLetters rest == ['c'] then "isc" else String.ofList (looseLetters rest)
    else String.ofList (looseLetters name.toList)
  | cs => String.ofList (looseLetters cs)

/-! ### Sets -/

/-- The characters of a general category, or of a group of them, by name. -/
def categorySet? (name : String) : Option CodeSet :=
  match name with
  | "any" => some [(0, 0x10FFFF)]
  | "ascii" => some [(0, 0x7F)]
  | "assigned" => some (categoryTable.collect fun name => name != "cn")
  | "c" | "other" => some (categories ["cc", "cf", "cn", "co"])
  | "l" | "letter" => some (categories ["ll", "lm", "lo", "lt", "lu"])
  | "lc" | "casedletter" => some (categories ["ll", "lt", "lu"])
  | "m" | "mark" | "combiningmark" => some (categories ["mc", "me", "mn"])
  | "n" | "number" => some (categories ["nd", "nl", "no"])
  | "p" | "punctuation" | "punct" => some (categories ["pc", "pd", "pe", "pf", "pi", "po", "ps"])
  | "s" | "symbol" => some (categories ["sc", "sk", "sm", "so"])
  | "z" | "separator" => some (categories ["zl", "zp", "zs"])
  | name => categoryTable.find? name

/-- The characters of a binary property, a general category or a script, by name. -/
def propertySet? (name : String) : Option CodeSet :=
  let name := looseName name
  (binaryPropertyTable.find? name).or ((categorySet? name).or (scriptTable.find? name))

/-- The characters that have a value of a property. -/
def valueSet? (property value : String) : Option CodeSet :=
  match looseName property with
  | "gc" | "generalcategory" => categorySet? (looseName value)
  | "sc" | "script" => scriptTable.find? (looseName value)
  | "scx" | "scriptextensions" => scriptExtensionTable.find? (looseName value)
  | "age" => ageSet? (looseName value)
  | "gcb" | "graphemeclusterbreak" => graphemeBreakSet? (looseName value)
  | "wb" | "wordbreak" => wordBreakSet? (looseName value)
  | "sb" | "sentencebreak" => sentenceBreakSet? (looseName value)
  | _ => none

end Unicode

end RoutePatterns
