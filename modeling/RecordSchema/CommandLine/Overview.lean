import RecordSchema.Descriptor
import RecordSchema.Text.Blank

/-!
# Overviews of schemas

The table that describes one schema to a reader: a heading with the name, the number of fields and
the beginning of the fingerprint, and a row for each field with its type, its default and whether it
has to be given. Names and types are padded to columns.
-/

set_option autoImplicit false

namespace RecordSchema.CommandLine

open RecordSchema.Text

/-- A text with blanks behind it up to a width. -/
def padTo (width : Nat) (s : String) : String :=
  s ++ String.ofList (List.replicate (width - s.length) ' ')

/-- The greatest length among texts. -/
def widest (texts : List String) : Nat :=
  texts.foldl (fun n s => max n s.length) 0

/-- How much of a fingerprint a heading shows. -/
def shortHash (hash : String) : String := String.ofList (hash.toList.take 12)

/-- The row of a field, without blanks at its end. -/
def overviewRow (d : Descriptor) (required : String → Bool) (field : String × String) : String :=
  let default := ((Value.lookupText field.1 d.defaults).getD .none).shown
  let row := "  " ++ padTo (widest (d.fields.map (·.1))) field.1 ++ "  " ++
    padTo (widest (d.fields.map (·.2))) field.2 ++ "  default=" ++ default ++ "  " ++
    (if required field.1 then "required" else "")
  String.ofList (trimEnd row.toList)

/-- The overview of a schema, a line each for the heading and the fields. -/
def overview (s : Schema) : Except Refusal (List String) := do
  let d ← s.describe
  let heading := s.name.display ++ "  (" ++ Nat.repr s.fields.length ++ " field(s), hash=" ++
    shortHash (← d.hash) ++ ")"
  if s.fields.isEmpty then return [heading, "  (no fields)"]
  return heading :: d.fields.map (overviewRow d s.isRequired)

end RecordSchema.CommandLine
