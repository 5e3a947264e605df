import RecordSchema.Value.Basic
import RecordSchema.Text.Quoted
import RecordSchema.Number.Shortest

/-!
# Printed forms

`Value.shown` is the form of a value inside messages, collections and printed records: text is
quoted, a collection stands in brackets of its kind, a class is named. `Value.display` is the form
of a value standing alone, where text, dates and decimals are plain.

A type inside the brackets of another is written by `Value.argument`: a class by its dotted name, an
ellipsis as three dots.
-/

set_option autoImplicit false

namespace RecordSchema.Value

open RecordSchema.Text

/-- Texts between commas. -/
def commas (items : List String) : String := ", ".intercalate items

/-- A tuple of printed items; a single one is followed by a comma. -/
def parenthesised : List String → String
  | [one] => "(" ++ one ++ ",)"
  | items => "(" ++ commas items ++ ")"

/-- The value under a name, if any. -/
def lookup {α : Type} (name : String) (pairs : List (String × α)) : Option α :=
  (pairs.find? (·.1 == name)).map (·.2)

/-- Is a member of a union the class of `None`? -/
def isNoneClass : Value → Bool
  | .classToken c => c == .builtin "NoneType"
  | _ => false

/-- A class is written by its dotted name inside the brackets of a type; any other value has its
printed form, given here. -/
def argument (v : Value) (printed : String) : String :=
  match v with
  | .classToken c => c.dotted
  | .recordClass c => c.name.dotted
  | .ellipsis => "..."
  | _ => printed

/-- Printed forms of the arguments of a type. -/
def arguments (values : List Value) (printed : List String) : List String :=
  List.zipWith argument values printed

/-- A union of two with `None` is an optional type. -/
def unionShown (members : List Value) (printed : List String) : String :=
  let parts := members.zip (arguments members printed)
  match parts.filter (fun p => !isNoneClass p.1), parts with
  | [(_, one)], [_, _] => "typing.Optional[" ++ one ++ "]"
  | _, _ => "typing.Union[" ++ commas (parts.map (·.2)) ++ "]"

/-- Does the only parameter of a callable type stand for the whole list of parameters? -/
def isWholeList : List Value → Bool
  | [.ellipsis] | [.tuple _] | [.list _ _] => true
  | _ => false

mutual

/-- The printed form of a value. -/
def shown : Value → String
  | .none => "None"
  | .bool b => if b then "True" else "False"
  | .int n => intText n
  | .real x => x.text
  | .text s => quoted s
  | .bytes octets => quotedOctets octets
  | .list _ items => "[" ++ commas (shownAll items) ++ "]"
  | .tuple items => parenthesised (shownAll items)
  | .mapping entries => "\x7b" ++ commas (shownEntries entries) ++ "\x7d"
  | .set items => if items.isEmpty then "set()" else "\x7b" ++ commas (shownAll items) ++ "\x7d"
  | .frozenSet items =>
    if items.isEmpty then "frozenset()" else "frozenset(\x7b" ++ commas (shownAll items) ++ "\x7d)"
  | .date d => d.shown
  | .clock c => c.shown
  | .moment m => m.shown
  | .decimal d => "Decimal('" ++ d.text ++ "')"
  | .token name => "<token " ++ name ++ ">"
  | .missing => "MISSING"
  | .classToken c => c.shown
  | .anyType => "typing.Any"
  | .ellipsis => "Ellipsis"
  | .union members => unionShown members (shownAll members)
  | .pipe members =>
    " | ".intercalate
      (List.zipWith (fun v s => if isNoneClass v then "None" else argument v s) members
        (shownAll members))
  | .alias family name args =>
    let full :=
      match family with
      | .builtin => name
      | .typing => "typing." ++ name
      | .abstract => "collections.abc." ++ name
    match family, args with
    | .typing, [] => full
    | .builtin, [] => full ++ "[()]"
    | _, args => full ++ "[" ++ commas (arguments args (shownAll args)) ++ "]"
  | .literal values =>
    if values.isEmpty then "typing.Literal[()]"
    else "typing.Literal[" ++ commas (arguments values (shownAll values)) ++ "]"
  | .annotated base notes =>
    "typing.Annotated[" ++ commas (argument base (shown base) :: shownAll notes) ++ "]"
  | .callable parameters result =>
    let taken := commas (arguments parameters (shownAll parameters))
    "typing.Callable[" ++ (if isWholeList parameters then taken else "[" ++ taken ++ "]") ++ ", " ++
      argument result (shown result) ++ "]"
  | .bareClassVar => "typing.ClassVar"
  | .classVar inner => "typing.ClassVar[" ++ argument inner (shown inner) ++ "]"
  | .typeVar _ name => "~" ++ name
  | .forwardRef name => "ForwardRef(" ++ quoted name ++ ")"
  | .orNone inner => shown inner ++ " | None"
  | .recordClass c => c.shown
  | .record _ c attributes =>
    match c.printing with
    | .fixed form => form
    | .unusable => ""
    | .byFields =>
      let printed := shownFields attributes
      c.name.qualname ++ "(" ++
        commas (c.keys.map fun k => k ++ "=" ++ (lookup k printed).getD "") ++ ")"
  | .handle _ _ form => form

def shownAll : List Value → List String
  | [] => []
  | v :: rest => shown v :: shownAll rest

def shownEntries : List (Value × Value) → List String
  | [] => []
  | (k, v) :: rest => (shown k ++ ": " ++ shown v) :: shownEntries rest

def shownFields : List (String × Value) → List (String × String)
  | [] => []
  | (k, v) :: rest => (k, shown v) :: shownFields rest

end

/-- The form of a value that stands alone. -/
def display : Value → String
  | .text s => s
  | .date d => d.text
  | .clock c => c.text
  | .moment m => m.text
  | .decimal d => d.text
  | v => shown v

end RecordSchema.Value
