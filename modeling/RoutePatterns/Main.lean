import RoutePatterns.CommandLine.Run

/-!
# The program

Reads the environment, runs the command, prints what it comes to, and follows a watched file.
-/

namespace RoutePatterns

namespace CommandLine

/-- The number of a failure of the file system, which comes as it is or as a negative number in 32
bits. -/
def systemNumber (code : UInt32) : Nat := if code < 0x80000000 then code.toNat else (0 - code).toNat

/-- The failure of the file system that an error tells. -/
def fileErrorOf : IO.Error → FileError
  | .alreadyExists _ code text | .interrupted _ code text | .noFileOrDirectory _ code text
  | .invalidArgument _ code text | .permissionDenied _ code text | .resourceExhausted _ code text
  | .inappropriateType _ code text | .noSuchThing _ code text | .otherError code text
  | .resourceBusy code text | .resourceVanished code text | .unsupportedOperation code text
  | .hardwareFault code text | .unsatisfiedConstraints code text | .illegalOperation code text
  | .protocolError code text | .timeExpired code text => .ofSystem (systemNumber code) text
  | .unexpectedEof => .other none "unexpected end of file"
  | .userError text => .other none text

/-- Reads a file. -/
def readContent (file : String) : IO FileContent := do
  try
    return .ok (← IO.FS.readBinFile file)
  catch e =>
    return .error (fileErrorOf e)

/-- Writes a note. -/
def writeNote : Note → IO Unit
  | .event e => IO.eprintln e.text
  | .line text => IO.eprintln text

/-- How often a watched file is read, in milliseconds. -/
def watchInterval : UInt32 := 2000

/-- Follows a watched file whose content was `last`. -/
partial def follow (w : Watch) (last : ByteArray) : IO Unit := do
  IO.sleep watchInterval
  let content ← readContent w.file
  match content with
  | .ok bytes =>
    if bytes == last then follow w last
    else
      let (w, notes) := w.reload content
      notes.forM writeNote
      follow w bytes
  | .error _ => follow w last

/-- The file that the arguments name. -/
def namedFile? (args : List String) : Option String :=
  match Invocation.ofArguments args with
  | .ok i => i.command.file?
  | .error _ => none

/-- Runs the program with the content of the file that the command reads. -/
def execute (args : List String) : IO UInt32 := do
  let logFilter ← IO.getEnv "RUST_LOG"
  let content ← match namedFile? args with
    | some file => readContent file
    | none => pure (.error .notFound)
  let o := run ⟨logFilter, fun _ => content⟩ args
  o.notes.forM writeNote
  IO.print o.output
  match o.watch, content with
  | some w, .ok bytes => follow w bytes
  | _, _ => pure ()
  return UInt32.ofNat o.code

end CommandLine

end RoutePatterns

def main (args : List String) : IO UInt32 := RoutePatterns.CommandLine.execute args
