import RecordSchema.TypeTerm.Column

/-!
# Paths

A path is a list of names below the root or below the current directory. Repeated slashes and single
dots mean nothing and are dropped; two dots are kept, for what they lead to depends on the files.
-/

set_option autoImplicit false

namespace RecordSchema

/-- A path: what it starts with (nothing, or one or two slashes) and the names on the way. -/
structure Path where
  root : String := ""
  parts : List String
deriving DecidableEq

namespace Path

/-- The path that a text denotes. Exactly two slashes in front are a root of their own. -/
def ofText (s : String) : Path :=
  let slashes := (s.toList.takeWhile (· == '/')).length
  let root := if slashes == 0 then "" else if slashes == 2 then "//" else "/"
  let parts := (TypeTerm.splitAt '/' s.toList).map String.ofList
  ⟨root, parts.filter fun p => p != "" && p != "."⟩

/-- The text of a path; the current directory is a dot. -/
def text (p : Path) : String :=
  let s := p.root ++ "/".intercalate p.parts
  if s == "" then "." else s

/-- The last name, or nothing for a root and for the current directory. -/
def name (p : Path) : String := p.parts.getLastD ""

/-- The path without its last name. -/
def parent (p : Path) : Path := { p with parts := p.parts.dropLast }

/-- The path with another last name. -/
def withName (p : Path) (name : String) : Path := { p with parts := p.parts.dropLast ++ [name] }

/-- What stands in a name from its last dot on, unless the dot is its first or last character. -/
def suffix (p : Path) : String :=
  let cs := p.name.toList
  let tail := (cs.reverse.takeWhile (· != '.')).reverse
  let before := cs.length - tail.length
  if 1 < before && !tail.isEmpty then String.ofList ('.' :: tail) else ""

/-- Does a name hold a NUL? No file can have such a path. -/
def isUnusable (p : Path) : Bool := p.parts.any (·.contains '\x00')

def isAbsolute (p : Path) : Bool := p.root != ""

end Path

end RecordSchema
