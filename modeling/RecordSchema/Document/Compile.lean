import RecordSchema.Settings.Basic

/-!
# Compiling documents

A document maps names under `structs` to blocks, and a block lists its fields: each a mapping with a
name, a type and options. The type is kept as text. Every block is compiled on its own; the first
fault in document order is the outcome of the whole.
-/

set_option autoImplicit false

namespace RecordSchema.Document

open RecordSchema.Value

/-- The options of a field entry: all its keys but the name and the type. -/
def entryOptions (entries : List (Value × Value)) : List (Value × Value) :=
  entries.filter fun e => !alike e.1 (.text "name") && !alike e.1 (.text "type")

/-- Declares the fields of a block, counted from `index`. -/
def declareEntries (name : String) (index : Nat) (b : Builder) : List Value → Report Builder
  | [] => pure b
  | .mapping entries :: rest =>
    match lookupText "name" entries, lookupText "type" entries with
    | some field, some type => do
      let text ← Report.ofExcept (type.displayed.mapError .refused)
      let (b, made) := b.declare field (.text text) (entryOptions entries)
      let _ ← made
      declareEntries name (index + 1) b rest
    | _, _ => Report.fail (.malformedField name index)
  | _ :: _ => Report.fail (.malformedField name index)

/-- The list of fields of a block's body, if it has the right shape. -/
def bodyFields? (body : Value) : Option (List Value) :=
  match body with
  | .mapping entries =>
    match (lookupText "fields" entries).getD (.ofList []) with
    | .list _ items => some items
    | _ => Option.none
  | _ => Option.none

/-- The schema of one block. -/
def compileBlock (settings : Settings) (name : String) (body : Value) : Report Schema := do
  match bodyFields? body with
  | Option.none => Report.fail (.malformedStruct name)
  | some fields =>
    let b ← Report.ofExcept ((settings.openBlock (.text name)).mapError .refused)
    let b ← declareEntries name 0 b fields
    let schema ← b.build.2
    Report.say .info .reader
      ("compiled struct " ++ name ++ " with " ++ Nat.repr schema.fields.length ++ " field(s)")
    return schema

/-- The schemas of the blocks of a document, in order. Blocks whose names have the same text end up
in one place, the last one winning. -/
def compileBlocks (settings : Settings) (done : List (String × Schema)) :
    List (Value × Value) → Report (List (String × Schema))
  | [] => pure done
  | (name, body) :: rest => do
    let name ← Report.ofExcept (name.displayed.mapError .refused)
    let schema ← compileBlock settings name body
    compileBlocks settings (Schema.put done name schema) rest

/-- The schemas of a document. -/
def compile (settings : Settings) (document : Value) : Report (List (String × Schema)) :=
  match document with
  | .mapping entries =>
    match lookupText "structs" entries with
    | some (.mapping blocks) => compileBlocks settings [] blocks
    | _ => Report.fail .noStructs
  | _ => Report.refuse .absentAttribute

end RecordSchema.Document
