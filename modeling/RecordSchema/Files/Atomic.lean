import RecordSchema.Error
import RecordSchema.Files.Tree

/-!
# Writing all or nothing

A text is written to a file beside its destination and then moved over it, so the destination holds
either what it held or the whole text. A failure leaves no file behind.
-/

set_option autoImplicit false

namespace RecordSchema

open RecordSchema.Text

/-- What is told about a file that was written. -/
structure Written where
  path : Path
  size : Nat

namespace FileTree

/-- The steps of writing: the directories, the file beside the destination, and the move. -/
def writeSteps (t : FileTree) (target beside : Path) (octets : List UInt8) :
    FileTree × Option FileFault :=
  match t.ensureDirectories target.root target.parent.parts with
  | (t, some fault) => (t, some fault)
  | (t, none) =>
    match t.write beside octets with
    | .error fault => (t, some fault)
    | .ok t =>
      match t.replace beside target with
      | .error fault => (t, some fault)
      | .ok t => (t, none)

/-- What is there once a path has been refused. If only its last name is at fault, the directories
on the way are made before that is noticed, as far as they can be. -/
def afterRefusal (t : FileTree) (target : Path) : FileTree :=
  if target.name == "" || target.parent.isUnusable then t
  else (t.ensureDirectories target.root target.parent.parts).1

/-- Writes a text to a path. A path without a name, or with a NUL in it, is refused. -/
def writeText (t : FileTree) (path text : String) : FileTree × Except Error Written :=
  let target := Path.ofText path
  if target.name == "" || target.isUnusable then
    (t.afterRefusal target, .error (.refused .badValue))
  else
    let octets := Utf8.encodeText text
    let beside := target.withName (target.name ++ ".tmp")
    match t.writeSteps target beside octets with
    | (t, some fault) => (t.discard beside, .error (.unwritable target.text fault.message))
    | (t, none) => (t, .ok ⟨target, octets.length⟩)

end FileTree

end RecordSchema
