import RecordSchema.Session.Basic

/-!
# Changes in a session

A change to a list, to a record or to a record class shows in every object that holds it: among the
defaults of fields, in schemas and classes, in records, frames and models.
-/

set_option autoImplicit false

namespace RecordSchema

/-- Attributes after a change of every value. -/
def mapAttributes (f : Value → Value) (attributes : List (String × Value)) :
    List (String × Value) :=
  attributes.map fun p => (p.1, f p.2)

def Field.mapValues (f : Value → Value) (x : Field) : Field :=
  { x with
    default := f x.default
    declared := f x.declared
    effective := f x.effective
    enforced := f x.enforced }

def Schema.mapValues (f : Value → Value) (s : Schema) : Schema :=
  { s with name := f s.name, fields := s.fields.map (·.mapValues f) }

def Accumulator.mapValues (f : Value → Value) (a : Accumulator) : Accumulator :=
  { a with name := f a.name, fields := a.fields.map (·.mapValues f) }

def Builder.mapValues (f : Value → Value) (b : Builder) : Builder :=
  { b with
    name := f b.name
    strict := f b.strict
    state := b.state.mapValues f
    schema := b.schema.map (·.mapValues f) }

def Member.mapValues (f : Value → Value) : Member → Member
  | .data v => .data (f v)
  | m => m

def RecordType.mapValues (f : Value → Value) (t : RecordType) : RecordType :=
  { t with
    schema := t.schema.mapValues f
    signature := t.signature.map fun p => { p with default := p.default.map f }
    members := t.members.map fun m => (m.1, m.2.mapValues f) }

def BuilderCell.mapValues (f : Value → Value) (c : BuilderCell) : BuilderCell :=
  { c with builder := c.builder.mapValues f }

def Block.mapValues (f : Value → Value) (b : Block) : Block where
  builder := b.builder.mapValues f
  schema := b.schema.map (·.mapValues f)
  struct := b.struct.map (·.mapValues f)

def BlockCell.mapValues (f : Value → Value) (c : BlockCell) : BlockCell :=
  { c with block := c.block.mapValues f }

def Frame.mapValues (f : Value → Value) (x : Frame) : Frame :=
  ⟨x.columns.map fun c => { c with values := c.values.map f }⟩

def Model.mapValues (f : Value → Value) (m : Model) : Model :=
  { m with fields := m.fields.map fun x => { x with default := x.default.map f } }

/-- A descriptor after a revision of its lists. -/
def Descriptor.revised (r : Revision) (required nullable : Nat) (d : Descriptor) : Descriptor :=
  { d with
    required := (r.items required).getD d.required
    nullable := (r.items nullable).getD d.nullable }

/-- An object after a revision; a record stands in it with its attributes. -/
def Object.revised (r : Revision) (o : Object) : Object :=
  let f := Value.revised r
  match o with
  | .schema id s => .schema id (s.mapValues f)
  | .descriptor id d required nullable =>
    .descriptor id (d.revised r required nullable) required nullable
  | .record cell c attributes =>
    match f (.record cell c attributes) with
    | .record cell c attributes => .record cell c attributes
    | _ => .record cell c attributes
  | .frame id x => .frame id (x.mapValues f)
  | .model id m => .model id (m.mapValues f)
  | .filled id modelId m values given =>
    .filled id modelId (m.mapValues f) (mapAttributes f values) given
  | o => o

namespace Session

/-- Carries out a revision wherever it shows. -/
def carryOut (r : Revision) : Act Unit :=
  let f := Value.revised r
  modify fun s =>
    { s with
      names := s.names.map fun n => (n.1, n.2.revised r)
      builders := s.builders.mapContents (·.mapValues f)
      accumulators := s.accumulators.mapContents (·.mapValues f)
      blocks := s.blocks.mapContents (·.mapValues f)
      types := s.types.mapContents (·.mapValues f)
      overlays := s.overlays.mapContents (·.map fun p => (p.1, p.2.map f)) }

/-- Puts a changed record class in the place of the old one. -/
def replaceType (t : RecordType) : Act Unit := do
  setType t
  carryOut (.ofClass t.identity)

/-- A copy of a value with storage of its own. -/
def copyValue (depth : Value.CopyDepth) (v : Value) : Act Value := do
  let (v, after) := v.copied depth ((← get).last + 1)
  modify fun s => { s with last := after }
  return v

/-- A copy of values with storage of their own. -/
def copyValues (depth : Value.CopyDepth) (values : List (String × Value)) :
    Act (List (String × Value)) :=
  values.mapM fun p => do return (p.1, ← copyValue depth p.2)

end Session

end RecordSchema
