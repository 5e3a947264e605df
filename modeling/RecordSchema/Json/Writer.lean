import RecordSchema.Error
import RecordSchema.Number.Numeral

/-!
# Writing JSON

Values as JSON text in one of two layouts. The canonical one has no blanks and sorts the keys of
every mapping, so equal data have one text; the indented one keeps the order of keys and puts every
element on a line of its own. Characters outside ASCII stand for themselves.

Numbers beside the finite ones are written by the words `NaN`, `Infinity` and `-Infinity`. Values
that are neither numbers, texts, truth values, `None`, lists, tuples nor mappings have no JSON text.
-/

set_option autoImplicit false

namespace RecordSchema.Json

open RecordSchema.Text Value

/-- How elements are laid out. -/
inductive Layout where
  /-- Sorted keys, no blanks. -/
  | canonical
  /-- One element a line, each level behind one more unit of indentation. -/
  | indented (unit : String)

/-- A character inside a JSON string. -/
def stringChar (c : Char) : List Char :=
  if c == '"' || c == '\\' then ['\\', c]
  else if c == '\n' then ['\\', 'n']
  else if c == '\r' then ['\\', 'r']
  else if c == '\t' then ['\\', 't']
  else if c == '\x08' then ['\\', 'b']
  else if c == '\x0c' then ['\\', 'f']
  else if c.toNat < 0x20 then '\\' :: 'u' :: fixedDigits 16 4 c.toNat
  else [c]

/-- A text as a JSON string. -/
def string (s : String) : String :=
  String.ofList ('"' :: s.toList.flatMap stringChar ++ ['"'])

/-- A floating-point number, or the word for what is none. -/
def real : Binary64 → String
  | .nan _ => "NaN"
  | .infinite negative => if negative then "-Infinity" else "Infinity"
  | x => x.text

/-- An integer, unless it has too many digits. -/
def integer (n : Int) : Except Refusal String :=
  if Numeral.isWritable n then .ok (intText n) else .error .badValue

/-- The text of a key: a text stands for itself, other scalars for their JSON text. -/
def key : Value → Except Refusal String
  | .text s => .ok s
  | .real x => .ok (real x)
  | .bool b => .ok (if b then "true" else "false")
  | .none => .ok "null"
  | .int n => integer n
  | _ => .error .wrongKind

/-- The order of keys, where they have one: texts among themselves and numbers among themselves. A
decimal is no key. -/
def keyLess? (a b : Value) : Option Bool :=
  match a, b with
  | .text s, .text t => some (s < t)
  | .decimal _, _ => Option.none
  | _, .decimal _ => Option.none
  | a, b =>
    match magnitude? a, magnitude? b with
    | some x, some y => some (x.less y)
    | _, _ => Option.none

/-- Is a key a decimal that comes neither before nor after a number? -/
def isUnordered : Value → Bool
  | .decimal (.nan ..) => true
  | _ => false

/-- Inserts an element into a list by halving: behind all that it is not less than, as far as the
halves that are looked at tell. `low` and `high` bound the place. -/
def insertHalving {α : Type} (less : α → α → Bool) (x : α) (sorted : Array α) :
    Nat → Nat → Nat → Array α
  | 0, low, _ => sorted.insertIdxIfInBounds low x
  | fuel + 1, low, high =>
    if low < high then
      let middle := low + (high - low) / 2
      match sorted[middle]? with
      | some y =>
        if less x y then insertHalving less x sorted fuel low middle
        else insertHalving less x sorted fuel (middle + 1) high
      | Option.none => sorted.insertIdxIfInBounds low x
    else sorted.insertIdxIfInBounds low x

/-- How many elements after the first belong to a run in which each one compares with the one before
it as asked. -/
def runLength {α : Type} (next : α → α → Bool) (before : α) : List α → Nat
  | [] => 0
  | x :: rest => if next before x then runLength next x rest + 1 else 0

/-- Sorts a list: the run at its front is kept, or turned round if it descends, and the elements
after it are inserted one by one. For an order this is stable sorting; where some elements cannot be
told apart from any other, as "not a number" cannot, the result depends on these very steps. -/
def sortByRuns {α : Type} (less : α → α → Bool) (xs : List α) : List α :=
  match xs with
  | first :: second :: rest =>
    let descends := less second first
    let length :=
      if descends then runLength (fun a b => less b a) second rest + 2
      else runLength (fun a b => !less b a) second rest + 2
    let run := if descends then (xs.take length).reverse else xs.take length
    ((xs.drop length).foldl
      (fun sorted x => insertHalving less x sorted (sorted.size + 1) 0 sorted.size)
      run.toArray).toList
  | xs => xs

/-- Sorts what stands under keys, if all keys can be compared with one another. -/
def sortedByKey {α : Type} (entries : List (Value × α)) : Except Refusal (List (Value × α)) :=
  match entries with
  | [] => .ok []
  | [one] => .ok [one]
  | first :: rest =>
    if rest.all (fun e => (keyLess? first.1 e.1).isSome) then
      .ok (sortByRuns (fun a b => (keyLess? a.1 b.1).getD false) entries)
    else if entries.all (fun e => (magnitude? e.1).isSome) &&
        entries.any (fun e => isUnordered e.1) then
      .error .invalidOperation
    else .error .wrongKind

/-- Elements between brackets, at a depth of nesting. -/
def enclosed (layout : Layout) (depth : Nat) (opening closing : String) (items : List String) :
    String :=
  if items.isEmpty then opening ++ closing
  else
    match layout with
    | .canonical => opening ++ ",".intercalate items ++ closing
    | .indented unit =>
      let line (level : Nat) : String := "\n" ++ "".intercalate (List.replicate level unit)
      opening ++ line (depth + 1) ++ (("," ++ line (depth + 1)).intercalate items) ++ line depth ++
        closing

/-- The order in which a layout lists the entries of a mapping. -/
def arranged {α : Type} (layout : Layout) (entries : List (Value × α)) :
    Except Refusal (List (Value × α)) :=
  match layout with
  | .canonical => sortedByKey entries
  | .indented _ => .ok entries

def keySeparator : Layout → String
  | .canonical => ":"
  | .indented _ => ": "

/-- One entry of a mapping: the key is looked at before what stands under it. -/
def member (layout : Layout) (entry : Value × Except Refusal String) : Except Refusal String := do
  let name ← key entry.1
  return string name ++ keySeparator layout ++ (← entry.2)

mutual

/-- The text of a value at a depth of nesting. -/
def encodeAt (layout : Layout) (depth : Nat) : Value → Except Refusal String
  | .none => .ok "null"
  | .bool b => .ok (if b then "true" else "false")
  | .int n => integer n
  | .real x => .ok (real x)
  | .text s => .ok (string s)
  | .list _ items => do
    return enclosed layout depth "[" "]" (← encodeAll layout (depth + 1) items)
  | .tuple items => do
    return enclosed layout depth "[" "]" (← encodeAll layout (depth + 1) items)
  | .mapping entries => do
    let entries ← arranged layout (encodeEntries layout (depth + 1) entries)
    return enclosed layout depth "\x7b" "\x7d" (← entries.mapM (member layout))
  | _ => .error .wrongKind

def encodeAll (layout : Layout) (depth : Nat) : List Value → Except Refusal (List String)
  | [] => .ok []
  | v :: rest => do
    return (← encodeAt layout depth v) :: (← encodeAll layout depth rest)

def encodeEntries (layout : Layout) (depth : Nat) :
    List (Value × Value) → List (Value × Except Refusal String)
  | [] => []
  | (k, v) :: rest => (k, encodeAt layout depth v) :: encodeEntries layout depth rest

end

/-- The text of a value in a layout. -/
def encode (layout : Layout) (v : Value) : Except Refusal String :=
  encodeAt layout 0 v

/-- The canonical text of a value. -/
def canonical (v : Value) : Except Refusal String :=
  encode .canonical v

end RecordSchema.Json
