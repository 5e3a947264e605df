import RecordSchema.Files.Path
import RecordSchema.Text.Quoted
import RecordSchema.Text.Utf8

/-!
# Files

A tree of directories and files, each file holding octets, and the operations on it that documents
and descriptors need: reading, making directories, writing, and moving a file over another. A
failure tells which rule was broken and for which path.
-/

set_option autoImplicit false

namespace RecordSchema

open RecordSchema.Text

/-- What stands at a place. -/
inductive Entry where
  | file (octets : List UInt8)
  | directory
deriving DecidableEq

/-- The rules that an operation on files can break. -/
inductive FileRule where
  | noSuchFile
  | exists
  | notDirectory
  | isDirectory
  | busy
  | nameTooLong
deriving DecidableEq

/-- A failed operation: the rule and the paths concerned. -/
structure FileFault where
  rule : FileRule
  path : String
  target : Option String := none
deriving DecidableEq

namespace FileFault

def number : FileRule → Nat
  | .noSuchFile => 2
  | .busy => 16
  | .exists => 17
  | .notDirectory => 20
  | .isDirectory => 21
  | .nameTooLong => 36

def words : FileRule → String
  | .noSuchFile => "No such file or directory"
  | .busy => "Device or resource busy"
  | .exists => "File exists"
  | .notDirectory => "Not a directory"
  | .isDirectory => "Is a directory"
  | .nameTooLong => "File name too long"

def message (f : FileFault) : String :=
  "[Errno " ++ Nat.repr (number f.rule) ++ "] " ++ words f.rule ++ ": " ++ quoted f.path ++
    ((f.target.map fun t => " -> " ++ quoted t).getD "")

end FileFault

/-- Everything there is, by place from the root, and the current directory. Links, permissions and
devices that fail are outside of these trees: there is one way to each place, and an operation fails
only by the rules above. -/
structure FileTree where
  entries : List (List String × Entry) := []
  current : List String := []

namespace FileTree

/-- What stands at a place; the root and the current directory are always directories. -/
def at? (t : FileTree) (place : List String) : Option Entry :=
  if place.isPrefixOf t.current then some .directory
  else (t.entries.find? (·.1 == place)).map (·.2)

/-- The tree with another entry at a place. -/
def put (t : FileTree) (place : List String) (e : Entry) : FileTree :=
  if t.entries.any (·.1 == place) then
    { t with entries := t.entries.map fun p => if p.1 == place then (place, e) else p }
  else { t with entries := t.entries ++ [(place, e)] }

/-- The tree without what stands at a place. -/
def remove (t : FileTree) (place : List String) : FileTree :=
  { t with entries := t.entries.filter (·.1 != place) }

/-- The place that names lead to from a directory; every name but the last has to be a directory. -/
def walk (t : FileTree) (place : List String) : List String → Except FileRule (List String)
  | [] => .ok place
  | name :: rest =>
    if 255 < name.utf8ByteSize then .error .nameTooLong
    else if name == ".." then t.walk place.dropLast rest
    else if rest.isEmpty then .ok (place ++ [name])
    else
      match t.at? (place ++ [name]) with
      | some .directory => t.walk (place ++ [name]) rest
      | some (.file _) => .error .notDirectory
      | none => .error .noSuchFile

/-- The most octets that the text of a path may have. -/
def longestPath : Nat := 4095

/-- The place that a path denotes. -/
def place (t : FileTree) (p : Path) : Except FileFault (List String) :=
  if longestPath < p.text.utf8ByteSize then .error ⟨.nameTooLong, p.text, none⟩
  else
    match t.walk (if p.isAbsolute then [] else t.current) p.parts with
    | .ok place => .ok place
    | .error rule => .error ⟨rule, p.text, none⟩

/-- What stands at the end of a path. -/
def find? (t : FileTree) (p : Path) : Option Entry :=
  (t.place p).toOption.bind t.at?

def isDirectory (t : FileTree) (p : Path) : Bool := t.find? p == some .directory

/-- The octets of a file. -/
def read (t : FileTree) (p : Path) : Except FileFault (List UInt8) := do
  match t.at? (← t.place p) with
  | some (.file octets) => return octets
  | some .directory => throw ⟨.isDirectory, p.text, none⟩
  | none => throw ⟨.noSuchFile, p.text, none⟩

/-- Makes one directory. -/
def makeDirectory (t : FileTree) (p : Path) : Except FileFault FileTree := do
  let place ← t.place p
  if (t.at? place).isSome then throw ⟨.exists, p.text, none⟩
  return t.put place .directory

/-- Makes a directory that may be there already; its parent has to be there. -/
def ensureDirectory (t : FileTree) (p : Path) : Except FileFault FileTree :=
  match t.makeDirectory p with
  | .ok made => .ok made
  | .error fault => if fault.rule != .noSuchFile && t.isDirectory p then .ok t else .error fault

/-- Makes a directory with all its parents, keeping those that are there. What was made stays even
if a later step fails. -/
def ensureDirectories (t : FileTree) (root : String) :
    List String → FileTree × Option FileFault
  | names =>
    -- A parent is made only when the directory itself cannot be for want of it.
    go t root names.length names
where
  go (t : FileTree) (root : String) : Nat → List String → FileTree × Option FileFault
    | fuel, names =>
      let p : Path := ⟨root, names⟩
      match t.ensureDirectory p with
      | .ok t => (t, none)
      | .error fault =>
        match fuel with
        | 0 => (t, some fault)
        | fuel + 1 =>
          if fault.rule != .noSuchFile || names.isEmpty then (t, some fault)
          else
            match go t root fuel names.dropLast with
            | (t, some fault) => (t, some fault)
            | (t, none) =>
              match t.ensureDirectory p with
              | .ok t => (t, none)
              | .error fault => (t, some fault)

/-- Writes a file, making it or replacing what it held. -/
def write (t : FileTree) (p : Path) (octets : List UInt8) : Except FileFault FileTree := do
  let place ← t.place p
  if t.at? place == some .directory then throw ⟨.isDirectory, p.text, none⟩
  return t.put place (.file octets)

/-- Moves a file over another one, or to where there is nothing. -/
def replace (t : FileTree) (source target : Path) : Except FileFault FileTree := do
  let fail (rule : FileRule) : Except FileFault FileTree :=
    .error ⟨rule, source.text, some target.text⟩
  match t.place source, t.place target with
  | .ok source, .ok place =>
    if target.name == ".." then fail .busy
    else
      match t.at? source, t.at? place with
      | some (.file _), some .directory => fail .isDirectory
      | some (.file octets), _ => return (t.remove source).put place (.file octets)
      | some .directory, _ => fail .isDirectory
      | none, _ => fail .noSuchFile
  | .error fault, _ => fail fault.rule
  | _, .error fault => fail fault.rule

/-- Removes a file; anything else stays. -/
def discard (t : FileTree) (p : Path) : FileTree :=
  match t.place p with
  | .ok place =>
    match t.at? place with
    | some (.file _) => t.remove place
    | _ => t
  | .error _ => t

/-- A path's text of files under a directory, each with its octets. -/
def filesUnder (t : FileTree) (directory : List String) : List (String × List UInt8) :=
  t.entries.filterMap fun p =>
    match p.2 with
    | .file octets =>
      if directory.isPrefixOf p.1 then
        some ("/".intercalate (p.1.drop directory.length), octets)
      else none
    | .directory => none

end FileTree

end RecordSchema
