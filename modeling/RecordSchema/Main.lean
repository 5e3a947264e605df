import RecordSchema.CommandLine.Run

/-!
# The program

Looks up the files and variables that a call can concern, runs the call on them, carries out what it
did to the files, and prints what it says.
-/

set_option autoImplicit false

namespace RecordSchema.Program

open RecordSchema.CommandLine

/-- The texts among arguments that can be paths: the arguments, and the values attached
to options. -/
def pathTexts (arguments : List String) : List String :=
  arguments ++ arguments.filterMap fun a => (Usage.splitAtEquals a).2

/-- The places on the way to a path and to the file beside it. -/
def placesOf (current : List String) (text : String) : List (List String) :=
  let p := Path.ofText text
  let place := p.parts.foldl (fun place name => if name == ".." then place.dropLast
    else place ++ [name]) (if p.isAbsolute then [] else current)
  let beside := place.dropLast ++ [place.getLastD "" ++ ".tmp"]
  beside :: (List.range (place.length + 1)).map place.take

/-- All places that a call can concern. -/
def concerned (current arguments : List String) : List (List String) :=
  ([".env", Settings.ownFile, Settings.sharedFile] ++ pathTexts arguments).flatMap
    (placesOf current) |>.eraseDups

/-- The text of a place. -/
def placeText (place : List String) : String := "/" ++ "/".intercalate place

/-- What stands at a place. -/
def look (place : List String) : IO (Option Entry) := do
  let p := (← IO.currentDir) / placeText place
  if ← p.isDir then return some .directory
  try return some (.file (← IO.FS.readBinFile p).toList)
  catch _ => return none

/-- The tree of the files that a call can concern. -/
def survey (arguments : List String) : IO FileTree := do
  let current := (Path.ofText (← IO.currentDir).toString).parts
  (concerned current arguments).foldlM (fun t place => do
    match ← look place with
    | some e => return t.put place e
    | none => return t) { current }

/-- The names of variables that a call can concern. -/
def variableNames (files : FileTree) : List String :=
  let own := EnvironmentFile.switchName ::
    Settings.variableTails.map fun v => Settings.variableHead ++ v.2
  match files.read (Path.ofText ".env") with
  | .ok octets => own ++ EnvironmentFile.mentioned ((Text.Utf8.decode? octets).getD [])
  | .error _ => own

def environment (files : FileTree) : IO Environment := do
  let found ← (variableNames files).filterMapM fun name => do
    return (← IO.getEnv name).map fun value => (name, value)
  return ⟨found⟩

/-- Carries out what a call did to the files. -/
def settle (before after : FileTree) : IO Unit := do
  for (place, e) in after.entries do
    if before.at? place != some e then
      match e with
      | .directory => IO.FS.createDirAll (placeText place)
      | .file octets =>
        let beside := placeText place ++ ".tmp"
        IO.FS.writeBinFile beside ⟨octets.toArray⟩
        IO.FS.rename beside (placeText place)

/-- Runs one call and gives its exit code. -/
def call (arguments : List String) : IO UInt32 := do
  let files ← survey arguments
  match run arguments files (← environment files) with
  | .error e =>
    IO.eprintln (e.message.getD "the call could not be completed")
    return 1
  | .ok outcome =>
    settle files outcome.files
    IO.print (wholeLines outcome.output)
    IO.eprint (wholeLines outcome.complaints)
    return ((outcome.exit.getD 0).toUInt32)

end RecordSchema.Program

def main (arguments : List String) : IO UInt32 := RecordSchema.Program.call arguments
