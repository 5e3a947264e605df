import RecordSchema.Session.Basic

/-!
# Annotations in a session

The constructs that annotations are built with, as a session makes them: what it made before from
equal parts it gives again. The types of fields are widened in the same way, so of two fields with
equal types the second has its widened type from the first.
-/

set_option autoImplicit false

namespace RecordSchema.Session

open RecordSchema.TypeTerm

/-- The construct of some parts, made now unless it was made before. What was made is kept for good:
the caches of `typing` are taken as unbounded, where those that there are forget the oldest
constructs. -/
def construct (form : Form) (parts : List Value) (make : Act Value) : Act Value := do
  if !Value.allHashable parts then make
  else
    match madeBefore? (← get).constructions form parts with
    | some known => return known
    | none =>
      let result ← make
      modify fun s => { s with constructions := s.constructions ++ [⟨form, parts, result⟩] }
      return result

def union (parts : List Value) : Act Value :=
  construct .union parts (ofRefusal (unionOf parts))

/-- A value or `None`, which is a union of two. -/
def optional (v : Value) : Act Value :=
  construct .optional [v] do union [← ofRefusal (member v), Value.noneClass]

/-- Values with bars between them, from the left. -/
def pipe : List Value → Act Value
  | [] => refuse .wrongKind
  | v :: rest => rest.foldlM (fun a b =>
      if isTypingPart a || isTypingPart b then union [a, b] else ofRefusal (bar a b)) v

def typingAlias (name : String) (args : List Value) : Act Value :=
  if args.isEmpty then ofRefusal (TypeTerm.typingAlias name args)
  else construct (.generic name) args (ofRefusal (TypeTerm.typingAlias name args))

def literal (values : List Value) : Act Value :=
  construct .literal values (return literalOf values)

def annotated (base note : Value) : Act Value :=
  construct .annotated [base, note] (ofRefusal (annotatedWith base note))

def callable (parameters : List Value) (result : Value) : Act Value :=
  construct .callable [.tuple parameters, result] (ofRefusal (callableOf parameters result))

def classVar (inner : Value) : Act Value :=
  construct .classVar [inner] (ofRefusal (classVarOf inner))

/-- The annotation that admits `None` beside what the given one does. -/
def widen (t : Value) : Act Value := do
  let widened ← ofRefusal (TypeTerm.widen t)
  if widensByUnion t then optional t else return widened

/-- A field of a block, its type widened as the session widens it. -/
def settled (f : Field) : Act Field := do
  if f.isNullable then return { f with effective := ← widen f.declared } else return f

def settledSchema (s : Schema) : Act Schema := do
  return { s with fields := ← s.fields.mapM settled }

/-- A block with the types of its fields widened as the session widens them. -/
def settledBuilder (b : Builder) : Act Builder := do
  let fields ← b.state.fields.mapM settled
  return { b with state := { b.state with fields } }

end RecordSchema.Session
