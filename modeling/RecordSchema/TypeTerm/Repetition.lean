import RecordSchema.TypeTerm.Construction

/-!
# Constructions made before

A typing construct that is made once more, from equal parts, is the one that was made before. Equal
unions and equal types of given values can list their members in another order, so the order of the
first one is what shows. A part that can be no key has nothing made from it kept.
-/

set_option autoImplicit false

namespace RecordSchema.TypeTerm

open RecordSchema.Value

/-- The typing constructs that are kept. -/
inductive Form where
  | optional
  | union
  | classVar
  | literal
  | annotated
  | callable
  | generic (name : String)
deriving DecidableEq

/-- A construct with the parts that it was made from. -/
structure Construction where
  form : Form
  parts : List Value
  result : Value

namespace Construction

/-- Are values, in order, alike and of one type, as far as equal values can differ in it? -/
def sameLiterals (xs ys : List Value) : Bool :=
  xs.length == ys.length &&
    (xs.zip ys).all fun p => alike p.1 p.2 && literalKind p.1 == literalKind p.2

/-- Is a construct made from the parts the one that was made here? Given values count with their
type. -/
def isFrom (c : Construction) (form : Form) (parts : List Value) : Bool :=
  c.form == form &&
    if form == .literal then sameLiterals c.parts parts else alikeAll c.parts parts

end Construction

/-- The construct that was made before from the parts. -/
def madeBefore? (made : List Construction) (form : Form) (parts : List Value) : Option Value :=
  (made.find? (·.isFrom form parts)).map (·.result)

end RecordSchema.TypeTerm
