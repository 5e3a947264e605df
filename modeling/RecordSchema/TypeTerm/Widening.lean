import RecordSchema.TypeTerm.Construction

/-!
# Widening to admit `None`

A field without a default that need not be given holds `None`, so its type is widened to admit it. A
text gets `| None` at its end unless it already ends so or is an optional type; a class, a typing
construct or `None` itself becomes an optional type; any other token is paired with `None`.
-/

set_option autoImplicit false

namespace RecordSchema.TypeTerm

open RecordSchema.Text

/-- The characters after a word at the front, if the word is there. -/
def after? (word : String) (cs : List Char) : Option (List Char) :=
  if cs.take word.length == word.toList then some (cs.drop word.length) else none

/-- The characters after an optional module name at the front. -/
def afterModule (cs : List Char) : List Char :=
  (after? "typing." cs).getD cs

/-- Is the text `None` with blanks around it? -/
def isNoneChars (cs : List Char) : Bool :=
  trimChars cs == "None".toList

/-- Does the text end in a bar and `None`, with blanks around the word? -/
def endsInNone (cs : List Char) : Bool :=
  match after? "enoN" ((trimEnd cs).reverse) with
  | some rest => (rest.dropWhile isBlank).head? == some '|'
  | none => false

/-- Does the text begin as an optional type? -/
def beginsOptional (cs : List Char) : Bool :=
  (after? "Optional[" (afterModule (cs.dropWhile isBlank))).isSome

/-- Is a text annotation recognised as one that admits `None`? -/
def textAdmitsNone (s : String) : Bool :=
  let cs := s.toList
  isNoneChars cs || endsInNone cs || beginsOptional cs

/-- The classes of objects that stand for a type with arguments or for a part of one. -/
def originClasses : List String :=
  ["_GenericAlias", "_SpecialGenericAlias", "_CallableGenericAlias", "_ConcatenateGenericAlias",
   "_UnpackGenericAlias", "_CallableType", "_TupleType", "GenericAlias", "ParamSpecArgs",
   "ParamSpecKwargs"]

/-- Does a value have the structure of a generic type? The base of all generic classes is its own
origin. -/
def hasOrigin : Value → Bool
  | .classToken c => c == genericClass
  | .union _ | .pipe _ | .alias .. | .literal _ | .annotated .. | .callable .. | .classVar _ => true
  | .handle _ (.object className) _ | .handle _ (.keyless className) _ =>
    originClasses.contains className
  | _ => false

/-- Is an annotation widened by a union with `None`? -/
def widensByUnion (t : Value) : Bool :=
  match t with
  | .none => true
  | t => t.isClass || hasOrigin t

/-- The annotation that admits `None` beside what the given one does. -/
def widen (t : Value) : Except Refusal Value :=
  match t with
  | .text s => .ok (if textAdmitsNone s then .text s else .text (s ++ " | None"))
  | .orNone inner => .ok (.orNone inner)
  | t => if widensByUnion t then optional t else .ok (.orNone t)

/-- Must a field with these options admit `None`? -/
def isNullable (hasDefault enforce : Bool) : Bool :=
  !hasDefault && !enforce

/-- The type of a field: as declared, or widened if the field must admit `None`. -/
def effective (t : Value) (hasDefault enforce : Bool) : Except Refusal Value :=
  if isNullable hasDefault enforce then widen t else .ok t

/-- Does an annotation mark a class variable rather than a field? -/
def isClassVar : Value → Bool
  | .text s =>
    match after? "ClassVar" (afterModule (s.toList.dropWhile isBlank)) with
    | some [] => true
    | some (c :: _) => !isWord c
    | none => false
  | .bareClassVar => true
  | .classVar _ => true
  | _ => false

end RecordSchema.TypeTerm
