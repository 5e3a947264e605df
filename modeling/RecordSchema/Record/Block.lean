import RecordSchema.Record.Class
import RecordSchema.Schema.Builder

/-!
# Blocks with a record class at their end

A block in which fields are declared gives its schema and its record class when it ends. If its body
breaks off, by a refused declaration or otherwise, it gives neither.
-/

set_option autoImplicit false

namespace RecordSchema

/-- A block with what it gave at its end. -/
structure Block where
  builder : Builder
  schema : Option Schema := none
  struct : Option RecordType := none

namespace Block

/-- Declares a field. -/
def declare (b : Block) (name type : Value) (options : List (Value × Value)) :
    Block × Report Field :=
  let (builder, made) := b.builder.declare name type options
  ({ b with builder }, made)

/-- Ends the block: gives its schema and then the record class of it. -/
def close (b : Block) (id : Nat) (body : ClassBody) : Block × Report (Schema × RecordType) :=
  let (builder, built) := b.builder.build
  match built.result with
  | .error e => ({ b with builder }, ⟨built.log, .error e⟩)
  | .ok schema =>
    match RecordType.create id schema body with
    | .error cause =>
      ({ b with builder, schema := some schema }, ⟨built.log, .error (.refused cause)⟩)
    | .ok struct =>
      ({ b with builder, schema := some schema, struct := some struct },
        ⟨built.log, .ok (schema, struct)⟩)

/-- Runs a body of declarations, which may break off after them, and ends the block unless it broke
off. -/
def run (b : Block) (declarations : List (Value × Value × List (Value × Value)))
    (interruption : Option Error) (id : Nat) (body : ClassBody) :
    Block × Report (Schema × RecordType) :=
  let (builder, declared) := b.builder.declareAll declarations
  let b := { b with builder }
  match declared.result, interruption with
  | .error e, _ => (b, ⟨declared.log, .error e⟩)
  | .ok _, some e => (b, ⟨declared.log, .error e⟩)
  | .ok _, none =>
    let (b, closed) := b.close id body
    (b, ⟨declared.log ++ closed.log, closed.result⟩)

end Block

end RecordSchema
