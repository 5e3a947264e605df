import RecordSchema.Name

/-!
# Lexemes of annotations in text

An annotation written as text is an expression. Its lexemes are names, constants and signs. Blanks
between lexemes do not count, and inside brackets line ends do not either; outside of them an
expression is one line, which begins without blanks.
-/

set_option autoImplicit false

namespace RecordSchema.TypeTerm

open RecordSchema.Text

/-- A lexeme of an expression. -/
inductive Lexeme where
  | name (s : String)
  | constant (v : Value)
  | sign (s : String)

namespace Lexeme

/-! ## Numbers -/

/-- The words that may follow a number without a blank. -/
def joiners : List String := ["and", "else", "for", "if", "in", "is", "not", "or"]

/-- May these characters follow a number? -/
def mayFollowNumber (cs : List Char) : Bool :=
  match cs with
  | [] => true
  | c :: _ => !isIdentifierContinue c ||
      joiners.contains (String.ofList (cs.takeWhile isIdentifierContinue))

/-- A number in a base other than ten, behind its mark. -/
def inBase? (base : Nat) (cs : List Char) : Option (Value × List Char) :=
  let body := if cs.head? == some '_' then cs.drop 1 else cs
  match Numeral.takeDigits (digitIn? base) body with
  | ([], _) => none
  | (ds, rest) => if mayFollowNumber rest then some (.int (ofDigits base ds), rest) else none

/-- A number in base ten. A whole number does not begin with zero, unless it is zero. -/
def inTen? (cs : List Char) : Option (Value × List Char) := do
  let (whole, rest) := Numeral.takeDigits (digitIn? 10) cs
  let (fraction, rest, hasPoint) := match rest with
    | '.' :: rest =>
      let (ds, rest) := Numeral.takeDigits (digitIn? 10) rest
      (ds, rest, true)
    | rest => ([], rest, false)
  if (whole ++ fraction).isEmpty then none
  let (exponent, after) := (Numeral.takeExponent rest).getD (0, rest)
  let isWhole := !hasPoint && after.length == rest.length
  match after with
  | c :: more =>
    if (c == 'j' || c == 'J') && mayFollowNumber more then
      return (.handle 0 (.object "complex") "0j", more)
  | [] => pure ()
  if !mayFollowNumber after then none
  if !isWhole then
    return (.real (.ofDecimal false (whole ++ fraction) (exponent - fraction.length)), after)
  if whole.head? == some 0 && whole.any (· != 0) then none
  return (.int (ofDigits 10 whole), after)

/-- The number at the front. -/
def takeNumber? (cs : List Char) : Option (Value × List Char) :=
  match cs with
  | '0' :: c :: rest =>
    if c == 'x' || c == 'X' then inBase? 16 rest
    else if c == 'o' || c == 'O' then inBase? 8 rest
    else if c == 'b' || c == 'B' then inBase? 2 rest
    else inTen? cs
  | cs => inTen? cs

/-! ## Texts -/

/-- The letters in front of a quote. -/
def isPrefixWord (word : String) : Bool :=
  ["r", "u", "b", "br", "rb", "f", "fr", "rf"].contains (lower word)

/-- The character of an escape with so many hexadecimal digits. -/
def hexEscape? (count : Nat) (cs : List Char) : Option (List Char × List Char) := do
  let ds := (cs.take count).filterMap (digitIn? 16)
  let n := ofDigits 16 ds
  if ds.length != count || 0x110000 ≤ n then none
  return ([Char.ofNat n], cs.drop count)

/-- The characters of an escape that counts only in texts, not among octets. -/
def textEscape? (c : Char) (rest : List Char) : Option (Option (List Char × List Char)) :=
  match c with
  | 'u' => some (hexEscape? 4 rest)
  | 'U' => some (hexEscape? 8 rest)
  | 'N' => some none
  | _ => none

/-- The characters that an escape behind a backslash stands for, in a text or among octets. -/
def escape? (octets : Bool) : List Char → Option (List Char × List Char)
  | [] => none
  | c :: rest =>
    match c with
    | '\n' => some ([], rest)
    | '\\' | '\'' | '"' => some ([c], rest)
    | 'a' => some (['\x07'], rest)
    | 'b' => some (['\x08'], rest)
    | 'f' => some (['\x0c'], rest)
    | 'n' => some (['\n'], rest)
    | 'r' => some (['\r'], rest)
    | 't' => some (['\t'], rest)
    | 'v' => some (['\x0b'], rest)
    | 'x' => hexEscape? 2 rest
    | c =>
      let ds := ((c :: rest).take 3).takeWhile fun d => (digitIn? 8 d).isSome
      let n := ofDigits 8 (ds.filterMap (digitIn? 8))
      if !ds.isEmpty then
        some ([Char.ofNat (if octets then n % 0x100 else n)], (c :: rest).drop ds.length)
      else
        match octets, textEscape? c rest with
        | false, some taken => taken
        | _, _ => some (['\\', c], rest)

/-- The characters up to the closing quotes, and what follows them. A text between single quotes
stays on its line, and octets are written in ASCII. At most `fuel` characters are read. -/
def takeText? (raw octets : Bool) (closing : List Char) :
    Nat → List Char → Option (List Char × List Char)
  | 0, _ => none
  | _, [] => none
  | fuel + 1, c :: rest =>
    if (c :: rest).take closing.length == closing then
      some ([], (c :: rest).drop closing.length)
    else if (c == '\n' && closing.length == 1) || (octets && 0x80 ≤ c.toNat) then none
    else if c == '\\' then do
      let (taken, after) ←
        if raw then match rest with
          | d :: after => some ([c, d], after)
          | [] => none
        else escape? octets rest
      let (more, after) ← takeText? raw octets closing fuel after
      return (taken ++ more, after)
    else do
      let (more, after) ← takeText? raw octets closing fuel rest
      return (c :: more, after)

/-- The text or octets that begin with a quote, behind the letters in front of it. -/
def takeQuoted? (letters : String) (cs : List Char) : Option (Value × List Char) := do
  let quote ← cs.head?
  let closing := if cs.take 3 == [quote, quote, quote] then [quote, quote, quote] else [quote]
  let marks := (lower letters).toList
  let octets := marks.contains 'b'
  let (taken, rest) ←
    takeText? (marks.contains 'r') octets closing (cs.length + 1) (cs.drop closing.length)
  if octets then
    return (.bytes (taken.map fun c => UInt8.ofNat c.toNat), rest)
  return (.text (String.ofList taken), rest)

/-! ## All lexemes -/

/-- The signs, longer ones first. -/
def signs : List String :=
  ["...", "**", "//", "<<", ">>", "<=", ">=", "==", "!=", ":=", "=", "+", "-", "*", "/", "%",
   "@", "&", "|", "^", "~", "<", ">", "(", ")", "[", "]", "\x7b", "\x7d", ",", ":", "."]

/-- The sign at the front. -/
def takeSign? (cs : List Char) : Option (String × List Char) :=
  (signs.find? fun s => cs.take s.length == s.toList).map fun s => (s, cs.drop s.length)

/-- The characters behind a comment. -/
def afterComment (cs : List Char) : List Char := cs.dropWhile (· != '\n')

/-- How deep inside brackets the characters behind a sign are. -/
def depthAfter (depth : Nat) (s : String) : Nat :=
  if ["(", "[", "\x7b"].contains s then depth + 1
  else if [")", "]", "\x7d"].contains s then depth - 1
  else depth

/-- Is there nothing but blanks, comments and line ends? At most `fuel` characters are read. -/
def isIdle : Nat → List Char → Bool
  | 0, cs => cs.isEmpty
  | _, [] => true
  | fuel + 1, c :: rest =>
    if c == '#' then isIdle fuel (afterComment rest)
    else (c == ' ' || c == '\t' || c == '\n' || c == '\x0c') && isIdle fuel rest

/-- The lexemes of characters, if they have them. At most `fuel` lexemes and blanks are read. -/
def scan? : Nat → Nat → List Char → Option (List Lexeme)
  | 0, _, _ => none
  | _, _, [] => some []
  | fuel + 1, depth, c :: rest =>
    let cs := c :: rest
    if c == ' ' || c == '\t' || c == '\x0c' then scan? fuel depth rest
    else if c == '#' then scan? fuel depth (afterComment rest)
    else if c == '\n' then
      if depth == 0 then (if isIdle cs.length rest then some [] else none)
      else scan? fuel depth rest
    else if c == '\\' then
      match rest with
      | '\n' :: rest => if rest.isEmpty then none else scan? fuel depth rest
      | _ => none
    else if isIdentifierStart c then
      let word := String.ofList (cs.takeWhile isIdentifierContinue)
      let after := cs.dropWhile isIdentifierContinue
      if (after.head? == some '\'' || after.head? == some '"') && isPrefixWord word then do
        let (v, after) ← takeQuoted? word after
        return .constant v :: (← scan? fuel depth after)
      else do return .name word :: (← scan? fuel depth after)
    else if c == '\'' || c == '"' then do
      let (v, after) ← takeQuoted? "" cs
      return .constant v :: (← scan? fuel depth after)
    else if isAsciiDigit c || (c == '.' && (rest.head?.map isAsciiDigit).getD false) then do
      let (v, after) ← takeNumber? cs
      return .constant v :: (← scan? fuel depth after)
    else do
      let (s, after) ← takeSign? cs
      return .sign s :: (← scan? fuel (depthAfter depth s) after)

/-- The characters behind lines that have nothing but blanks and comments. -/
def afterIdleLines : Nat → List Char → List Char
  | 0, cs => cs
  | fuel + 1, cs =>
    let line := cs.takeWhile (· != '\n')
    if line.length < cs.length && isIdle (line.length + 1) line then
      afterIdleLines fuel (cs.drop (line.length + 1))
    else cs

/-- Line ends of every kind as line feeds. -/
def unifiedLines : List Char → List Char
  | [] => []
  | '\r' :: '\n' :: rest => '\n' :: unifiedLines rest
  | '\r' :: rest => '\n' :: unifiedLines rest
  | c :: rest => c :: unifiedLines rest

/-- The lexemes of an expression; texts that stand side by side are one. -/
def ofText? (s : String) : Option (List Lexeme) :=
  let cs := afterIdleLines s.length (unifiedLines s.toList)
  if cs.head? == some ' ' || cs.head? == some '\t' then none
  else scan? (2 * cs.length + 2) 0 cs

end Lexeme

end RecordSchema.TypeTerm
