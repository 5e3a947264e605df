import RecordSchema.CommandLine.Arguments
import RecordSchema.CommandLine.Overview
import RecordSchema.Descriptor.Bundle
import RecordSchema.Document.Load
import RecordSchema.Files.Atomic
import RecordSchema.Settings.EnvironmentFile

/-!
# The commands

`describe` prints overviews of the schemas of a document, `export` writes their descriptors to a
file. Both end with code 0, or with code 2 after telling a fault of the arguments, of the document
or of writing. Any other fault is no outcome but an error.

Before a command runs, settings are read; what is said until then appears without its speaker and
level, what is said later is kept if the settings ask for its level.
-/

set_option autoImplicit false

namespace RecordSchema.CommandLine

open RecordSchema.Text

/-- What a call leaves behind: how it ended, what it printed, and the files. -/
structure Outcome where
  /-- The exit code; none if the call just returned. -/
  exit : Option Nat
  output : List String := []
  complaints : List String := []
  files : FileTree

/-- A text as whole lines. -/
def wholeLines (lines : List String) : String :=
  String.join (lines.map (· ++ "\n"))

/-- The usage of the command that describes. -/
def describeUsage : Usage where
  command := "describe"
  summary := "Describe compiled structs."
  operand := "path"
  operandHelp := "Declaration document (.yaml/.yml/.json/.toml)."
  option := "--struct"
  placeholder := "STRUCT"
  optionHelp := "Only describe this struct."
  mandatory := false

/-- The usage of the command that exports. -/
def exportUsage : Usage where
  command := "export"
  summary := "Export struct descriptors as JSON."
  operand := "path"
  operandHelp := "Declaration document (.yaml/.yml/.json/.toml)."
  option := "--out"
  placeholder := "OUT"
  optionHelp := "Destination JSON file."
  mandatory := true

/-- The help text of the whole program. -/
def overallHelp : List String :=
  let commands := "\x7b" ++ describeUsage.command ++ "," ++ exportUsage.command ++ "\x7d"
  ["usage: typedstruct [-h] " ++ commands ++ " ...", "", "typedstruct compiler CLI.", "",
   "positional arguments:", "  " ++ commands, "", "options:",
   Usage.helpRow commands.length "-h, --help" "show this help message and exit"]

/-- The level from which on the log is shown. -/
def threshold (s : Settings) : Level :=
  match s.logLevel with
  | .text word => (Level.ofWord? word).getD .warning
  | _ => .warning

/-- A log entry as a line. -/
def logLine (e : LogEntry) : String :=
  e.speaker.name ++ " - " ++ e.level.word ++ " - " ++ e.message

/-- The lines of the log from a level on. -/
def logLines (least : Level) (log : List LogEntry) : List String :=
  (log.filter fun e => least.rank ≤ e.level.rank).map logLine

/-- What is shown of a log that was written before the settings were known. -/
def earlyLines (log : List LogEntry) : List String :=
  (log.filter fun e => Level.warning.rank ≤ e.level.rank).map (·.message)

def errorLine (message : String) : String := "[ERROR] " ++ message

/-- Ends with a complaint and code 2. -/
def giveUp (files : FileTree) (lines : List String) (message : String) : Outcome :=
  { exit := some 2, complaints := lines ++ [errorLine message], files }

/-- The outcome of an error: a complaint if the error has words, else the error itself. -/
def told (files : FileTree) (lines : List String) (e : Error) : Except Error Outcome :=
  match e.message with
  | some message => .ok (giveUp files lines message)
  | none => .error e

/-- Prints overviews of all schemas, or of one. -/
def describe (s : Settings) (files : FileTree) (path : String)
    (chosen : Option OptionValue) : Except Error Outcome :=
  let loaded := Document.loadSchemas s files path
  let lines := logLines (threshold s) loaded.log
  match loaded.result with
  | .error e => told files lines e
  | .ok schemas =>
    let print (schemas : List Schema) : Except Error Outcome := do
      let tables ← (schemas.mapM overview).mapError Error.refused
      return { exit := some 0, output := tables.flatten, complaints := lines, files }
    match chosen with
    | none => print (schemas.map (·.2))
    | some .nothing => .error (.refused .wrongKind)
    | some (.text name) =>
      match Value.lookup name schemas with
      | some schema => print [schema]
      | none =>
        .ok (giveUp files lines ("no struct named " ++ quoted name ++ " in " ++ path))

/-- The line that tells the fingerprint of a schema. -/
def stamp (s : Schema) : Except Refusal String := do
  return "[INFO] " ++ s.name.display ++ ": " ++ (← s.hash)

/-- Writes the descriptors of all schemas to a file. -/
def «export» (s : Settings) (files : FileTree) (path : String)
    (destination : Option OptionValue) : Except Error Outcome := do
  let loaded := Document.loadSchemas s files path
  let lines := logLines (threshold s) loaded.log
  match loaded.result with
  | .error e => told files lines e
  | .ok schemas =>
    let descriptors ← ((schemas.map (·.2)).mapM Schema.describe).mapError Error.refused
    let text ← (Descriptor.bundleText s.indent descriptors).mapError Error.refused
    let target ←
      match destination with
      | some (.text target) => pure target
      | _ => throw (.refused .wrongKind)
    let (files, written) := files.writeText target text
    match written with
    | .error e => told files lines e
    | .ok w =>
      let stamps ← ((schemas.map (·.2)).mapM stamp).mapError Error.refused
      let summary := "[INFO] Wrote " ++ Nat.repr schemas.length ++ " descriptor(s) to " ++
        w.path.text
      return { exit := some 0, output := summary :: stamps, complaints := lines, files }

/-- Reads the arguments of a command and runs it. -/
def runCommand (u : Usage) (files : FileTree) (arguments : List String)
    (run : String → Option OptionValue → Except Error Outcome) : Except Error Outcome :=
  match u.request arguments with
  | .help => .ok { exit := some 0, output := u.help, files }
  | .refused message =>
    .ok { exit := some 2, complaints := u.complaint message, files }
  | .run operand option => run operand option

/-- The outcome of a command under settings. -/
def dispatch (s : Settings) (files : FileTree) (command : String) (arguments : List String) :
    Except Error Outcome :=
  if command == describeUsage.command then
    runCommand describeUsage files arguments (describe s files)
  else if command == exportUsage.command then
    runCommand exportUsage files arguments («export» s files)
  else
    .ok { exit := some 2, complaints := ["Unknown command: " ++ command], files }

/-- The settings for a call, from the environment file, the settings files and the environment. -/
def readSettings (files : FileTree) (e : Environment) : Report Settings := do
  Settings.load files (← EnvironmentFile.load files e) none

/-- The outcome of a call of the program. -/
def run (arguments : List String) (files : FileTree) (e : Environment) : Except Error Outcome :=
  match arguments with
  | [] => .ok { exit := none, output := overallHelp, files }
  | command :: rest => do
    let settings := readSettings files e
    let outcome ← dispatch (← settings.result) files command rest
    return { outcome with complaints := earlyLines settings.log ++ outcome.complaints }

end RecordSchema.CommandLine
