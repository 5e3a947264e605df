import RecordSchema.TypeTerm.Widening

/-!
# Annotations as text

A text stands for itself, a class for its name within its module, unless it is its own origin, a
union for its members between bars; any other annotation is its printed form without the module
prefix of typing constructs. What goes wrong with printing it is found by `renderFault?`.
-/

set_option autoImplicit false

namespace RecordSchema.TypeTerm

/-- Characters without any occurrence of a word, looked for from the left; at most `fuel` steps. -/
def removeWord (word : List Char) : Nat → List Char → List Char
  | 0, cs => cs
  | _, [] => []
  | fuel + 1, c :: rest =>
    if (c :: rest).take word.length == word then
      removeWord word fuel ((c :: rest).drop word.length)
    else c :: removeWord word fuel rest

/-- A printed form without the module prefix of typing constructs. -/
def withoutPrefix (s : String) : String :=
  String.ofList (removeWord "typing.".toList s.length s.toList)

mutual

/-- The text of an annotation. -/
def render : Value → String
  | .text s => s
  | .orNone inner => render inner ++ " | None"
  | .none => "None"
  | .classToken c =>
    if c == .builtin "NoneType" then "None"
    else if c == genericClass then withoutPrefix c.shown
    else c.qualname
  | .recordClass c => c.name.qualname
  | .anyType => "Any"
  | .union members => " | ".intercalate (renderAll members)
  | .pipe members => " | ".intercalate (renderAll members)
  | v => withoutPrefix v.shown

def renderAll : List Value → List String
  | [] => []
  | v :: rest => render v :: renderAll rest

end

mutual

/-- What goes wrong first when the text of an annotation is formed. -/
def renderFault? : Value → Option Refusal
  | .text _ => none
  | .orNone inner => renderFault? inner
  | .union members => renderFaultIn members
  | .pipe members => renderFaultIn members
  | v => v.printFault?

def renderFaultIn : List Value → Option Refusal
  | [] => none
  | v :: rest => (renderFault? v).or (renderFaultIn rest)

end

/-- The kinds of annotation that are told apart when one is shown. -/
inductive Kind where
  | text
  | orNone
  | none
  | typing
  | cls
  | other
deriving DecidableEq

def kind : Value → Kind
  | .text _ => .text
  | .orNone _ => .orNone
  | .none => .none
  | v => if hasOrigin v then .typing else if v.isClass then .cls else .other

def Kind.word : Kind → String
  | .text => "text"
  | .orNone => "ornone"
  | .none => "none"
  | .typing => "typing"
  | .cls => "class"
  | .other => "other"

end RecordSchema.TypeTerm
