import RecordSchema.TypeTerm.Lexeme

/-!
# Annotations in text as expressions

The grammar of expressions: alternatives, connectives, comparisons, operators from the vertical bar
to the power, and behind names and constants any number of dotted names, subscripts and calls. A
comma makes a tuple.
-/

set_option autoImplicit false

namespace RecordSchema.TypeTerm

inductive Expression where
  | name (s : String)
  | constant (v : Value)
  | attribute (e : Expression) (name : String)
  | subscript (e index : Expression)
  | call (e : Expression) (arguments : List Expression)
  | tuple (items : List Expression)
  /-- Items between brackets. -/
  | display (items : List Expression)
  /-- A mapping by its keys and values in turn. -/
  | mapping (parts : List Expression)
  /-- A function, or what a comprehension gives, from the values of the expressions that
  it needs. -/
  | made (className : String) (needs : List Expression)
  | unary (operator : String) (e : Expression)
  | binary (operator : String) (a b : Expression)
  /-- The first expression if the condition holds, else the second. -/
  | conditional (condition first second : Expression)

namespace Expression

/-- The binary operators by level, from the loosest on. -/
def levels : List (List String) :=
  [["or"], ["and"], [], ["==", "!=", "<", ">", "<=", ">=", "in", "is"], ["|"], ["^"], ["&"],
   ["<<", ">>"], ["+", "-"], ["*", "/", "%", "@", "//"]]

/-- The level of a negation in words. -/
def negationLevel : Nat := 2

/-- The binary operator of a level at the front. A comparison may be of two words. -/
def takeOperator (level : Nat) : List Lexeme → Option (String × List Lexeme)
  | .name "not" :: .name "in" :: rest =>
    if (levels.getD level []).contains "in" then some ("not in", rest) else none
  | .name "is" :: .name "not" :: rest =>
    if (levels.getD level []).contains "is" then some ("is not", rest) else none
  | .name s :: rest => if (levels.getD level []).contains s then some (s, rest) else none
  | .sign s :: rest => if (levels.getD level []).contains s then some (s, rest) else none
  | _ => none

/-- Constants that stand side by side, as one, if they are of one kind. -/
def joined? (v : Value) : List Lexeme → Option (Value × List Lexeme)
  | .constant (.text t) :: rest =>
    match v with
    | .text s => joined? (.text (s ++ t)) rest
    | _ => none
  | .constant (.bytes t) :: rest =>
    match v with
    | .bytes s => joined? (.bytes (s ++ t)) rest
    | _ => none
  | rest => some (v, rest)

/-- The sign at the front is taken off, if it is there. -/
def take? (s : String) : List Lexeme → Option (List Lexeme)
  | .sign t :: rest => if s == t then some rest else none
  | _ => none

/-- The expression of a word; a reserved word is none, apart from three constants. -/
def ofWord? (s : String) : Option Expression :=
  match s with
  | "None" => some (.constant .none)
  | "True" => some (.constant (.bool true))
  | "False" => some (.constant (.bool false))
  | s => if FieldName.isReserved s then none else some (.name s)

mutual

/-- An expression. -/
def expression : Nat → List Lexeme → Option (Expression × List Lexeme)
  | 0, _ => none
  | fuel + 1, .name "lambda" :: ls => do
    let (needs, rest) ← parameters fuel [] ls
    let (_, rest) ← expression fuel (← take? ":" rest)
    return (.made "function" needs, rest)
  | fuel + 1, ls => do
    let (first, rest) ← operation fuel 0 ls
    match rest with
    | .name "if" :: rest =>
      let (condition, rest) ← operation fuel 0 rest
      match rest with
      | .name "else" :: rest =>
        let (second, rest) ← expression fuel rest
        return (.conditional condition first second, rest)
      | _ => none
    | rest => return (first, rest)

/-- The parameters of a function up to its colon: the expressions of their defaults. No name is used
twice. -/
def parameters : Nat → List String → List Lexeme → Option (List Expression × List Lexeme)
  | 0, _, _ => none
  | fuel + 1, seen, ls =>
    match ls with
    | .sign ":" :: _ => some ([], ls)
    | .sign "*" :: .sign "," :: rest | .sign "/" :: .sign "," :: rest => parameters fuel seen rest
    | .sign "/" :: rest => if (take? ":" rest).isSome then some ([], rest) else none
    | .sign "*" :: .name s :: rest | .sign "**" :: .name s :: rest =>
      furtherParameters fuel s seen rest
    | .name s :: .sign "=" :: rest => do
      let (default, rest) ← expression fuel rest
      let (more, rest) ← furtherParameters fuel s seen rest
      return (default :: more, rest)
    | .name s :: rest => furtherParameters fuel s seen rest
    | _ => none

/-- The parameters behind one of a name. -/
def furtherParameters : Nat → String → List String → List Lexeme →
    Option (List Expression × List Lexeme)
  | 0, _, _, _ => none
  | fuel + 1, word, seen, ls =>
    if seen.contains word || FieldName.isReserved word then none
    else
      match ls with
      | .sign "," :: rest => parameters fuel (word :: seen) rest
      | .sign ":" :: _ => some ([], ls)
      | _ => none

/-- An operation of a level or a tighter one. -/
def operation : Nat → Nat → List Lexeme → Option (Expression × List Lexeme)
  | 0, _, _ => none
  | fuel + 1, level, ls =>
    if levels.length ≤ level then factor fuel ls
    else if level == negationLevel then
      match ls with
      | .name "not" :: rest => do
        let (e, rest) ← operation fuel level rest
        return (.unary "not" e, rest)
      | ls => operation fuel (level + 1) ls
    else do
      let (a, rest) ← operation fuel (level + 1) ls
      further fuel level a rest

/-- More operands of a level. -/
def further : Nat → Nat → Expression → List Lexeme → Option (Expression × List Lexeme)
  | 0, _, _, _ => none
  | fuel + 1, level, a, ls =>
    match takeOperator level ls with
    | some (operator, rest) => do
      let (b, rest) ← operation fuel (level + 1) rest
      further fuel level (.binary operator a b) rest
    | none => some (a, ls)

/-- A signed operand or a power. -/
def factor : Nat → List Lexeme → Option (Expression × List Lexeme)
  | 0, _ => none
  | fuel + 1, ls =>
    match ls with
    | .sign s :: rest =>
      if ["+", "-", "~"].contains s then do
        let (e, rest) ← factor fuel rest
        return (.unary s e, rest)
      else power fuel ls
    | ls => power fuel ls

/-- A primary expression, to a power or by itself. -/
def power : Nat → List Lexeme → Option (Expression × List Lexeme)
  | 0, _ => none
  | fuel + 1, ls => do
    let (e, rest) ← atom fuel ls
    let (e, rest) ← trailers fuel e rest
    match take? "**" rest with
    | some rest =>
      let (b, rest) ← factor fuel rest
      return (.binary "**" e b, rest)
    | none => return (e, rest)

/-- Dotted names, subscripts and calls behind an expression. -/
def trailers : Nat → Expression → List Lexeme → Option (Expression × List Lexeme)
  | 0, _, _ => none
  | fuel + 1, e, ls =>
    match ls with
    | .sign "." :: .name s :: rest =>
      if FieldName.isReserved s then none else trailers fuel (.attribute e s) rest
    | .sign "[" :: rest => do
      let (items, hasComma, rest) ← items fuel true rest
      let rest ← take? "]" rest
      match items, hasComma with
      | [], _ => none
      | [one], false => trailers fuel (.subscript e one) rest
      | items, _ => trailers fuel (.subscript e (.tuple items)) rest
    | .sign "(" :: rest => do
      let (given, rest) ← arguments fuel [] rest
      trailers fuel (.call e given) (← take? ")" rest)
    | ls => some (e, ls)

/-- The arguments of a call up to its closing bracket, in the order written. Behind one with a name
none stands without, and no name is used twice. -/
def arguments : Nat → List String → List Lexeme → Option (List Expression × List Lexeme)
  | 0, _, _ => none
  | fuel + 1, seen, ls =>
    match ls with
    | .sign ")" :: _ => some ([], ls)
    | .sign "**" :: rest => do
      let (e, rest) ← expression fuel rest
      furtherArguments fuel e ("" :: seen) rest
    | .name s :: .sign "=" :: rest => do
      if seen.contains s || (ofWord? s matches some (.constant _)) || (ofWord? s).isNone then none
      let (e, rest) ← expression fuel rest
      furtherArguments fuel e (s :: seen) rest
    | ls => do
      let (e, rest) ← item fuel false ls
      match rest with
      | .name "for" :: _ =>
        if seen.isEmpty then
          let (needed, rest) ← clauses fuel rest
          if (take? ")" rest).isNone then none
          return ([.made "generator" [needed]], rest)
        else none
      | rest =>
        if seen.isEmpty || (e matches .unary "*" _) then furtherArguments fuel e seen rest else none

/-- The arguments from one on whose expression is read. -/
def furtherArguments : Nat → Expression → List String → List Lexeme →
    Option (List Expression × List Lexeme)
  | 0, _, _, _ => none
  | fuel + 1, e, seen, ls =>
    match ls with
    | .sign "," :: rest => do
      let (more, rest) ← arguments fuel seen rest
      return (e :: more, rest)
    | .sign ")" :: _ => some ([e], ls)
    | _ => none

/-- The clauses of a comprehension: the expression that it goes over first. -/
def clauses : Nat → List Lexeme → Option (Expression × List Lexeme)
  | 0, _ => none
  | fuel + 1, ls =>
    match ls with
    | .name "for" :: rest => do
      let rest ← targets fuel rest
      let (e, rest) ← operation fuel 0 rest
      let rest ← conditions fuel rest
      match rest with
      | .name "for" :: _ =>
        let (_, rest) ← clauses fuel rest
        return (e, rest)
      | rest => return (e, rest)
    | _ => none

/-- What is left behind the targets of a comprehension and the word after them. -/
def targets : Nat → List Lexeme → Option (List Lexeme)
  | 0, _ => none
  | fuel + 1, ls => do
    let (_, rest) ← operation fuel (negationLevel + 2) (take? "*" ls |>.getD ls)
    match rest with
    | .name "in" :: rest => return rest
    | .sign "," :: .name "in" :: rest => return rest
    | .sign "," :: rest => targets fuel rest
    | _ => none

/-- What is left behind the conditions of a comprehension. -/
def conditions : Nat → List Lexeme → Option (List Lexeme)
  | 0, _ => none
  | fuel + 1, ls =>
    match ls with
    | .name "if" :: rest => do
      let (_, rest) ← operation fuel 0 rest
      conditions fuel rest
    | ls => some ls

/-- The entries of a mapping up to the closing brace, keys and values in turn. -/
def entries : Nat → List Lexeme → Option (List Expression × List Lexeme)
  | 0, _ => none
  | fuel + 1, ls =>
    match ls with
    | .sign "\x7d" :: _ => some ([], ls)
    | .sign "**" :: rest => do
      let (e, rest) ← operation fuel (negationLevel + 2) rest
      furtherEntries fuel [e] rest
    | ls => do
      let (key, rest) ← expression fuel ls
      let (v, rest) ← expression fuel (← take? ":" rest)
      furtherEntries fuel [key, v] rest

/-- The entries from one on whose parts are read. -/
def furtherEntries : Nat → List Expression → List Lexeme → Option (List Expression × List Lexeme)
  | 0, _, _ => none
  | fuel + 1, parts, ls =>
    match ls with
    | .sign "," :: rest => do
      let (more, rest) ← entries fuel rest
      return (parts ++ more, rest)
    | .sign "\x7d" :: _ => some (parts, ls)
    | _ => none

/-- Items between commas up to a closing bracket, and whether there was a comma. A slice is taken
only where it may stand. -/
def items : Nat → Bool → List Lexeme → Option (List Expression × Bool × List Lexeme)
  | 0, _, _ => none
  | fuel + 1, slices, ls =>
    match ls with
    | .sign ")" :: _ | .sign "]" :: _ | .sign "\x7d" :: _ => some ([], false, ls)
    | ls => do
      let (one, rest) ← item fuel slices ls
      match take? "," rest with
      | some rest =>
        let (more, _, rest) ← items fuel slices rest
        return (one :: more, true, rest)
      | none => return ([one], false, rest)

/-- One item: a starred expression, an expression, or a slice. -/
def item : Nat → Bool → List Lexeme → Option (Expression × List Lexeme)
  | 0, _, _ => none
  | fuel + 1, slices, ls =>
    match ls with
    | .sign "*" :: rest => do
      let (e, rest) ← operation fuel (negationLevel + 2) rest
      return (.unary "*" e, rest)
    | .sign ":" :: rest => if slices then slice fuel rest else none
    | .name s :: .sign ":=" :: rest => if (ofWord? s).isSome then expression fuel rest else none
    | ls => do
      let (e, rest) ← expression fuel ls
      match slices, take? ":" rest with
      | true, some rest => slice fuel rest
      | _, _ => return (e, rest)

/-- The rest of a slice behind its first colon; its bounds do not matter. -/
def slice : Nat → List Lexeme → Option (Expression × List Lexeme)
  | 0, _ => none
  | fuel + 1, ls =>
    let rest := match expression fuel ls with
      | some (_, rest) => rest
      | none => ls
    let rest := match take? ":" rest with
      | some more =>
        match expression fuel more with
        | some (_, rest) => rest
        | none => more
      | none => rest
    some (.constant (.handle 0 (.object "slice") "slice"), rest)

/-- What stands between braces: a mapping if its first part is followed by a colon, else a set. -/
def braced : Nat → List Lexeme → Option (Expression × List Lexeme)
  | 0, _ => none
  | fuel + 1, ls =>
    match ls with
    | .sign "\x7d" :: _ | .sign "**" :: _ => do
      let (parts, rest) ← entries fuel ls
      return (.mapping parts, rest)
    | ls => do
      let (first, rest) ← item fuel false ls
      match rest with
      | .sign ":" :: rest =>
        let (v, rest) ← expression fuel rest
        match rest with
        | .name "for" :: _ =>
          let (needed, rest) ← clauses fuel rest
          return (.made "dict" [needed], rest)
        | rest =>
          let (parts, rest) ← furtherEntries fuel [first, v] rest
          return (.mapping parts, rest)
      | .name "for" :: _ =>
        let (needed, rest) ← clauses fuel rest
        return (.made "set" [needed], rest)
      | .sign "," :: rest =>
        let (more, _, rest) ← items fuel false rest
        return (.made "set" (first :: more), rest)
      | rest => return (.made "set" [first], rest)

/-- A name, a constant, or what stands between brackets. -/
def atom : Nat → List Lexeme → Option (Expression × List Lexeme)
  | 0, _ => none
  | fuel + 1, ls =>
    match ls with
    | .name s :: rest => (ofWord? s).map fun e => (e, rest)
    | .constant v :: rest => (joined? v rest).map fun p => (.constant p.1, p.2)
    | .sign "..." :: rest => some (.constant .ellipsis, rest)
    | .sign "(" :: rest => do
      let (items, hasComma, rest) ← items fuel false rest
      match items, hasComma, rest with
      | [.unary "*" _], false, _ => none
      | [_], false, .name "for" :: _ =>
        let (needed, rest) ← clauses fuel rest
        return (.made "generator" [needed], ← take? ")" rest)
      | [one], false, rest => return (one, ← take? ")" rest)
      | items, _, rest => return (.tuple items, ← take? ")" rest)
    | .sign "[" :: rest => do
      let (items, hasComma, rest) ← items fuel false rest
      match items, hasComma, rest with
      | [_], false, .name "for" :: _ =>
        let (needed, rest) ← clauses fuel rest
        return (.made "list" [needed], ← take? "]" rest)
      | items, _, rest => return (.display items, ← take? "]" rest)
    | .sign "\x7b" :: rest => do
      let (e, rest) ← braced fuel rest
      return (e, ← take? "\x7d" rest)
    | _ => none

end

/-- Expressions between commas up to the end; a comma makes a tuple of them. -/
def whole? : Nat → List Lexeme → Option (List Expression × Bool)
  | 0, _ => none
  | fuel + 1, ls => do
    let (e, rest) ← expression (32 * (ls.length + 1)) ls
    match rest with
    | [] => return ([e], false)
    | [.sign ","] => return ([e], true)
    | .sign "," :: rest =>
      let (more, _) ← whole? fuel rest
      return (e :: more, true)
    | _ => none

/-- The expression that a text is, if it is one. A star in front stands for the first of what it
spreads out. -/
def ofText (s : String) : Except Refusal Expression :=
  match s.toList with
  | [] => .error .badIndex
  | c :: _ =>
    if s.contains '\x00' then .error .badValue
    else
      let s := if c == '*' then "(" ++ s ++ ",)[0]" else s
      let parsed := do
        let ls ← Lexeme.ofText? s
        whole? (ls.length + 1) ls
      match parsed with
      | some ([e], false) => .ok e
      | some (items, _) => .ok (.tuple items)
      | none => .error .badSyntax

end Expression

end RecordSchema.TypeTerm
