import RecordSchema.TypeTerm.Construction

/-!
# Values of annotations in text

An annotation in text is an expression over the builtin names and the names of the place that it is
written for. What it evaluates to is an annotation, which may have texts inside it; those are
evaluated in turn. Arithmetic gives no type, so of a number that it results in nothing is kept but
that it is one.
-/

set_option autoImplicit false

namespace RecordSchema.TypeTerm

open RecordSchema.Value

/-- Why an annotation in text has no value. -/
inductive EvaluationFault where
  | unknownName
  | refused (cause : Refusal)
deriving DecidableEq

/-- What an evaluation gives. -/
abbrev Evaluated := Except EvaluationFault Value

/-- The names of a place with their values. -/
abbrev Scope := String → Option Value

/-- The result of a construction as that of an evaluation. -/
def evaluated {α : Type} (r : Except Refusal α) : Except EvaluationFault α := r.mapError .refused

/-! ## Builtin names -/

/-- The other builtin classes. -/
def plainClasses : List String :=
  ["int", "float", "str", "bool", "bytes", "complex", "object", "bytearray", "memoryview", "range",
   "slice", "property", "staticmethod", "classmethod", "super", "filter", "map", "reversed", "zip",
   "ArithmeticError", "AssertionError", "AttributeError", "BaseException", "BlockingIOError",
   "BrokenPipeError", "BufferError", "BytesWarning", "ChildProcessError", "ConnectionAbortedError",
   "ConnectionError", "ConnectionRefusedError", "ConnectionResetError", "DeprecationWarning",
   "EOFError", "EncodingWarning", "EnvironmentError", "Exception", "FileExistsError",
   "FileNotFoundError", "FloatingPointError", "FutureWarning", "GeneratorExit", "IOError",
   "ImportError", "ImportWarning", "IndentationError", "IndexError", "InterruptedError",
   "IsADirectoryError", "KeyError", "KeyboardInterrupt", "LookupError", "MemoryError",
   "ModuleNotFoundError", "NameError", "NotADirectoryError", "NotImplementedError", "OSError",
   "OverflowError", "PendingDeprecationWarning", "PermissionError", "ProcessLookupError",
   "RecursionError", "ReferenceError", "ResourceWarning", "RuntimeError", "RuntimeWarning",
   "StopAsyncIteration", "StopIteration", "SyntaxError", "SyntaxWarning", "SystemError",
   "SystemExit", "TabError", "TimeoutError", "TypeError", "UnboundLocalError",
   "UnicodeDecodeError", "UnicodeEncodeError", "UnicodeError", "UnicodeTranslateError",
   "UnicodeWarning", "UserWarning", "ValueError", "Warning", "ZeroDivisionError"]

/-- The builtin functions. -/
def functions : List String :=
  ["abs", "aiter", "all", "anext", "any", "ascii", "bin", "breakpoint", "callable", "chr",
   "compile", "copyright", "credits", "delattr", "dir", "divmod", "eval", "exec", "exit", "format",
   "getattr", "globals", "hasattr", "hash", "help", "hex", "id", "input", "isinstance",
   "issubclass", "iter", "len", "license", "locals", "max", "min", "next", "oct", "open", "ord",
   "pow", "print", "quit", "repr", "round", "setattr", "sorted", "sum", "vars"]

/-- An object of a class, of which nothing else matters. -/
def objectOf (className : String) : Value := .handle 0 (.object className) className

/-- The value of a builtin name. -/
def builtin? (name : String) : Option Value :=
  if subscriptable.contains name || plainClasses.contains name then some (builtinClass name)
  else if functions.contains name then some (objectOf "builtin_function_or_method")
  else
    match name with
    | "Ellipsis" => some .ellipsis
    | "NotImplemented" => some (objectOf "NotImplementedType")
    | "__debug__" => some (.bool true)
    | _ => Option.none

/-! ## Operations -/

/-- An operation on numbers that gives a number. -/
def arithmetic (a b : Value) : Except Refusal Value :=
  match magnitude? a, magnitude? b with
  | some _, some _ => .ok (objectOf "int")
  | _, _ => .error .wrongKind

/-- The order of two numbers. -/
def ordered (holds : Magnitude → Magnitude → Bool) (a b : Value) : Except Refusal Value :=
  match magnitude? a, magnitude? b with
  | some x, some y => .ok (.bool (holds x y))
  | _, _ => .error .wrongKind

/-- Is a value among the items of another? -/
def amongItems (v items : Value) : Except Refusal Bool :=
  match items with
  | .list _ vs | .tuple vs => .ok (vs.any v.alike)
  | _ => .error .wrongKind

/-- Two values under a binary operator other than the connectives. -/
def operate (operator : String) (a b : Value) : Except Refusal Value :=
  match operator with
  | "==" => .ok (.bool (a.equal b))
  | "!=" => .ok (.bool (!a.equal b))
  | "is" => .ok (.bool (a.alike b))
  | "is not" => .ok (.bool (!a.alike b))
  | "in" => (amongItems a b).map .bool
  | "not in" => (amongItems a b).map fun found => .bool (!found)
  | "<" => ordered (fun x y => x.less y) a b
  | ">" => ordered (fun x y => y.less x) a b
  | "<=" => ordered (fun x y => x.less y || x.equal y) a b
  | ">=" => ordered (fun x y => y.less x || x.equal y) a b
  | "|" => if (magnitude? a).isSome then arithmetic a b else bar a b
  | "+" =>
    match a, b with
    | .text s, .text t => .ok (.text (s ++ t))
    | a, b => arithmetic a b
  | _ => arithmetic a b

/-- The item at a place, counted from the end if it is negative. -/
def itemAt (items : List Value) (place : Int) : Except Refusal Value :=
  let i := if place < 0 then place + items.length else place
  if i < 0 then .error .badIndex else ((items[i.toNat]?).map Except.ok).getD (.error .badIndex)

/-- A value with another between brackets behind it. -/
def subscript (v index : Value) : Except Refusal Value :=
  match v, index with
  | .classToken c, index =>
    if c.module == "builtins" then
      match index with
      | .tuple args => builtinAlias c.qualname args
      | one => builtinAlias c.qualname [one]
    else .error .wrongKind
  | .list _ items, .int place | .tuple items, .int place => itemAt items place
  | .text s, .int place => itemAt (s.toList.map fun c => .text (String.singleton c)) place
  | _, _ => .error .wrongKind

/-- A value under a sign or a negation. -/
def negated (operator : String) (v : Value) : Except Refusal Value :=
  if operator == "not" then .ok (.bool (!v.truthy)) else arithmetic v v

/-- What a call gives; a class or a function can be called. -/
def called (v : Value) : Except Refusal Value :=
  match v with
  | .handle _ (.object "builtin_function_or_method") _ => .ok (objectOf "object")
  | v => if v.isClass then .ok (objectOf "object") else .error .wrongKind

/-! ## Evaluation -/

mutual

/-- The value of an expression. -/
def evaluate (scope : Scope) : Expression → Evaluated
  | .name s => ((scope s).or (builtin? s)).elim (.error .unknownName) .ok
  | .constant v => .ok v
  | .attribute e _ => do
    let _ ← evaluate scope e
    throw (.refused .absentAttribute)
  | .subscript e index => do
    let v ← evaluate scope e
    evaluated (subscript v (← evaluate scope index))
  | .call e arguments => do
    let v ← evaluate scope e
    let _ ← evaluateAll scope arguments
    evaluated (called v)
  | .tuple items => do return .tuple (← evaluateAll scope items)
  | .display items => do return .ofList (← evaluateAll scope items)
  | .mapping parts => do
    let _ ← evaluateAll scope parts
    return objectOf "dict"
  | .made className needs => do
    let _ ← evaluateAll scope needs
    return objectOf className
  | .unary operator e => do evaluated (negated operator (← evaluate scope e))
  | .binary operator a b => do
    let v ← evaluate scope a
    if operator == "and" then (if v.truthy then evaluate scope b else return v)
    else if operator == "or" then (if v.truthy then return v else evaluate scope b)
    else evaluated (operate operator v (← evaluate scope b))
  | .conditional condition first second => do
    if (← evaluate scope condition).truthy then evaluate scope first else evaluate scope second

/-- The values of expressions, where one behind a star stands for all its items. -/
def evaluateAll (scope : Scope) : List Expression → Except EvaluationFault (List Value)
  | [] => .ok []
  | .unary "*" e :: rest => do
    match ← evaluate scope e with
    | .list _ items | .tuple items => return items ++ (← evaluateAll scope rest)
    | .alias family name args => return .alias family name args :: (← evaluateAll scope rest)
    | _ => throw (.refused .wrongKind)
  | e :: rest => do
    let v ← evaluate scope e
    return v :: (← evaluateAll scope rest)

end

/-! ## Resolution -/

mutual

/-- An annotation with what the texts in it are evaluated to; a text inside a text counts as one of
at most `fuel` levels. -/
def resolve (scope : Scope) : Nat → Value → Evaluated
  | 0, _ => .error .unknownName
  | fuel + 1, v =>
    match v with
    | .none => .ok noneClass
    | .text s => resolveText scope fuel s
    | .forwardRef s => resolveText scope fuel s
    | .alias family name args => do
      return .alias family name (← args.mapM (resolveArgument scope fuel))
    | .union members => do
      evaluated (unionOfMembers (← members.mapM (resolveArgument scope fuel)))
    | .pipe members => do evaluated (pipeOf (← members.mapM (resolveArgument scope fuel)))
    | .annotated base notes => do return .annotated (← resolveArgument scope fuel base) notes
    | .callable parameters result => do
      let parameters ← parameters.mapM (resolveArgument scope fuel)
      return .callable parameters (← resolveArgument scope fuel result)
    | .classVar inner => do return .classVar (← resolveArgument scope fuel inner)
    | v => .ok v

/-- What a text is evaluated to, which can be anything but a tuple. -/
def resolveText (scope : Scope) : Nat → String → Evaluated
  | 0, _ => .error .unknownName
  | fuel + 1, s => do
    match ← evaluate scope (← evaluated (Expression.ofText s)) with
    | .tuple _ => throw (.refused .wrongKind)
    | v => resolve scope fuel v

/-- An argument of a generic type or a member of a union, resolved; `None` stays what it is. -/
def resolveArgument (scope : Scope) : Nat → Value → Evaluated
  | 0, _ => .error .unknownName
  | fuel + 1, v =>
    match v with
    | .none => .ok .none
    | v => resolve scope fuel v

end

/-- The levels of texts and generic types that are resolved. -/
def maxDepth : Nat := 4000

/-- An annotation with what the texts in it stand for. -/
def resolved (scope : Scope) (v : Value) : Evaluated := resolve scope maxDepth v

end RecordSchema.TypeTerm
