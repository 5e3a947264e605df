import RecordSchema.Descriptor
import RecordSchema.Number.Word

/-!
# Bundles of descriptors

A bundle lists descriptors in order, each with its fingerprint. Its text is canonical JSON, or JSON
with a unit of indentation, and ends with a line feed.
-/

set_option autoImplicit false

namespace RecordSchema

namespace Descriptor

/-- A descriptor with its fingerprint behind its other entries. -/
def stamped (d : Descriptor) : Except Refusal Value := do
  return .mapping (d.entries ++ [(.text "hash", .text (← d.hash))])

/-- The bundle of descriptors, in order. -/
def bundle (ds : List Descriptor) : Except Refusal Value := do
  return .mapping
    [(.text "version", .int formatVersion), (.text "structs", .ofList (← ds.mapM stamped))]

/-- So many blanks as a unit of indentation; none for a negative number. The number has to fit into
a word of 64 bits. -/
def blanks (n : Int) : Except Refusal Json.Layout :=
  if !Word.holds 64 n then .error .outOfRange
  else .ok (.indented (String.ofList (List.replicate n.toNat ' ')))

/-- The layout that an indentation asks for: canonical for `None`, so many blanks a level for a
number, and a text as the unit itself. -/
def layout : Value → Except Refusal Json.Layout
  | .none => .ok .canonical
  | .bool b => blanks (if b then 1 else 0)
  | .int n => blanks n
  | .text s => .ok (.indented s)
  | _ => .error .wrongKind

/-- The text of a bundle. -/
def bundleText (indent : Value) (ds : List Descriptor) : Except Refusal String := do
  let whole ← bundle ds
  return (← Json.encode (← layout indent) whole) ++ "\n"

end Descriptor

end RecordSchema
