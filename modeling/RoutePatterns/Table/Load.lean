import RoutePatterns.Table.Basic
import RoutePatterns.Toml.Codec

/-!
# Loading configurations and tables

A configuration is a TOML document, given as text or as the content of a file. Loading a table
reads the configuration and builds the table through the cache.
-/

namespace RoutePatterns

/-- Why a file cannot be read. -/
inductive FileError where
  /-- There is no such file. -/
  | notFound
  /-- The file may not be read. -/
  | permissionDenied
  /-- A part of the path is a file and not a directory. -/
  | notADirectory
  /-- The path names a directory. -/
  | isADirectory
  /-- The name of the file is too long. -/
  | nameTooLong
  /-- The path leads from link to link without an end. -/
  | linkLoop
  /-- The content is not text in UTF-8. -/
  | invalidText
  /-- Any other failure, with its number if the operating system reports it. -/
  | other (code? : Option Nat) (text : String)
deriving DecidableEq, Repr

namespace FileError

/-- The number under which the operating system reports the failure, if it does. -/
def systemCode? : FileError → Option Nat
  | notFound => some 2
  | permissionDenied => some 13
  | notADirectory => some 20
  | isADirectory => some 21
  | nameTooLong => some 36
  | linkLoop => some 40
  | invalidText => none
  | other code? _ => code?

/-- The failure that the operating system reports under a number, in its own words. -/
def ofSystem (code : Nat) (text : String) : FileError :=
  match code with
  | 2 => notFound
  | 13 => permissionDenied
  | 20 => notADirectory
  | 21 => isADirectory
  | 36 => nameTooLong
  | 40 => linkLoop
  | _ => other (some code) text

/-- A failure is told under the number under which it was reported. -/
theorem systemCode?_ofSystem (code : Nat) (text : String) : (ofSystem code text).systemCode? = some code := by
  unfold ofSystem
  split <;> rfl

/-- The name of the failure. -/
def label : FileError → String
  | notFound => "NotFound"
  | permissionDenied => "PermissionDenied"
  | notADirectory => "NotADirectory"
  | isADirectory => "IsADirectory"
  | nameTooLong => "InvalidFilename"
  | linkLoop => "FilesystemLoop"
  | invalidText => "InvalidData"
  | other (some _) _ => "Uncategorized"
  | other none _ => "Other"

/-- The failure in words. -/
def text : FileError → String
  | notFound => "No such file or directory"
  | permissionDenied => "Permission denied"
  | notADirectory => "Not a directory"
  | isADirectory => "Is a directory"
  | nameTooLong => "File name too long"
  | linkLoop => "Too many levels of symbolic links"
  | invalidText => "stream did not contain valid UTF-8"
  | other _ text => text

/-- The message for a reader. -/
def message (e : FileError) : String :=
  match e.systemCode? with
  | some code => e.text ++ " (os error " ++ toString code ++ ")"
  | none => e.text

end FileError

/-- Why a configuration or a table cannot be loaded. -/
inductive LoadError where
  /-- The file cannot be read. -/
  | file (e : FileError)
  /-- The text is no configuration. -/
  | parse
  /-- The configuration has problems. -/
  | validation (errors : List ValidationError)
deriving DecidableEq, Repr

/-- The message that lists all problems of a configuration. -/
def validationMessage (errors : List ValidationError) : String :=
  "Validation failed: " ++ ", ".intercalate (errors.map ValidationError.message)

/-- The message for a reader. -/
def LoadError.message : LoadError → String
  | file e => "IO error: " ++ e.message
  | parse => "Parse error"
  | validation errors => validationMessage errors

/-- The content of a file, or why there is none. -/
abbrev FileContent := Except FileError ByteArray

/-- The text of a file. -/
def FileContent.text (content : FileContent) : Except LoadError String :=
  match content with
  | .error e => .error (.file e)
  | .ok bytes =>
    match String.fromUTF8? bytes with
    | some s => .ok s
    | none => .error (.file .invalidText)

/-- The configuration of a text. -/
def parseConfig (s : String) : Except LoadError Config :=
  match Config.ofToml? s with
  | some c => .ok c
  | none => .error .parse

/-- The configuration of a file. -/
def loadConfig (content : FileContent) : Except LoadError Config := do
  parseConfig (← content.text)

/-- A table that was loaded, or why there is none, with what that did to the cache. -/
structure TableLoad where
  result : Except LoadError Table
  accesses : List Access
  cache : Cache

/-- Builds the table of a configuration, if there is one. -/
def buildTable (config : Except LoadError Config) (cache : Cache) : TableLoad :=
  match config with
  | .error e => ⟨.error e, [], cache⟩
  | .ok c =>
    let b := Table.ofConfig c cache
    ⟨b.result.mapError LoadError.validation, b.accesses, b.cache⟩

/-- The table of a text. -/
def parseTable (s : String) (cache : Cache) : TableLoad := buildTable (parseConfig s) cache

/-- The table of a file. -/
def loadTable (content : FileContent) (cache : Cache) : TableLoad :=
  buildTable (loadConfig content) cache

end RoutePatterns
