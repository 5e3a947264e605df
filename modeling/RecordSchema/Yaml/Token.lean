import RecordSchema.Yaml.Cursor
import RecordSchema.Text.Utf8
import RecordSchema.Number.Word

/-!
# Tokens of YAML

The tokens of a YAML text, and the readers of those with a text of their own: directives, anchors,
tags and scalars in their five styles.
-/

set_option autoImplicit false

namespace RecordSchema.Yaml

open RecordSchema.Text

/-- An instruction before a document. -/
inductive Directive where
  | version (major : Nat)
  | tag (handle start : String)
  | other
deriving DecidableEq

inductive Token where
  | directive (d : Directive)
  | documentStart
  | documentEnd
  | blockSequenceStart
  | blockMappingStart
  | blockEnd
  | flowSequenceStart
  | flowSequenceEnd
  | flowMappingStart
  | flowMappingEnd
  | blockEntry
  | flowEntry
  | key
  | value
  | aliasName (name : String)
  | anchor (name : String)
  | tag (handle : Option String) (suffix : String)
  | scalar (text : String) (plain : Bool)
  /-- The place behind which the text has no tokens, and why. -/
  | fault (cause : DocumentFault)
deriving DecidableEq

/-- A name of word characters, not empty. -/
def scanWord (c : Cursor) : Except DocumentFault (String × Cursor) :=
  match c.spanned isWordChar with
  | [] => malformed
  | cs => .ok (String.ofList cs, c.forward cs.length)

/-- The name of an anchor or alias, behind its mark. -/
def scanAnchor (c : Cursor) : Except DocumentFault (String × Cursor) := do
  let (name, c) ← scanWord c.next
  if isGapOrEnd c.current || isOneOf "?:,]\x7d%@\x60" c.current then return (name, c) else malformed

/-- A tag handle: an exclamation mark, or word characters between two. -/
def scanTagHandle (c : Cursor) : Except DocumentFault (String × Cursor) :=
  if c.current != '!' then malformed
  else if c.peek 1 == ' ' then .ok ("!", c.next)
  else
    let word := c.next.spanned isWordChar
    if c.peek (word.length + 1) == '!' then
      .ok (String.ofList ('!' :: word ++ ['!']), c.forward (word.length + 2))
    else malformed

def isUriChar (ch : Char) : Bool :=
  isWordChar ch || isOneOf ";/?:@&=+$,_.!~*'()[]" ch

/-- Octets written as a percent sign and two hexadecimal digits, as many as follow one another. -/
def uriOctets : Nat → Cursor → Except DocumentFault (List UInt8 × Cursor)
  | 0, c => .ok ([], c)
  | fuel + 1, c =>
    if c.current == '%' then
      match digitIn? 16 (c.peek 1), digitIn? 16 (c.peek 2) with
      | some a, some b => do
        let (os, c) ← uriOctets fuel (c.forward 3)
        return (UInt8.ofNat (a * 16 + b) :: os, c)
      | _, _ => malformed
    else .ok ([], c)

/-- The characters of a tag's address, in which octets of UTF-8 text may be escaped. -/
def uriChars : Nat → Cursor → Except DocumentFault (List Char × Cursor)
  | 0, c => .ok ([], c)
  | fuel + 1, c =>
    if c.current == '%' then do
      let (os, c) ← uriOctets c.rest.length c
      match Utf8.decode? os with
      | none => malformed
      | some cs =>
        let (more, c) ← uriChars fuel c
        return (cs ++ more, c)
    else if isUriChar c.current then do
      let (more, rest) ← uriChars fuel c.next
      return (c.current :: more, rest)
    else .ok ([], c)

/-- The address in a tag, not empty. -/
def scanUri (c : Cursor) : Except DocumentFault (String × Cursor) := do
  let (cs, after) ← uriChars c.rest.length c
  if after.index == c.index then malformed else return (String.ofList cs, after)

/-- A tag: an address between angle brackets, a lone mark, or a handle with an address. -/
def scanTag (c : Cursor) : Except DocumentFault (Token × Cursor) := do
  let (token, c) ←
    if c.peek 1 == '<' then do
      let (uri, c) ← scanUri (c.forward 2)
      if c.current != '>' then malformed
      pure (Token.tag none uri, c.next)
    else if isGapOrEnd (c.peek 1) then pure (Token.tag none "!", c.next)
    else
      let word := c.next.spanned fun ch => !isSpaceOrEnd ch
      if word.contains '!' then do
        let (handle, c) ← scanTagHandle c
        let (uri, c) ← scanUri c
        pure (Token.tag (some handle) uri, c)
      else do
        let (uri, c) ← scanUri c.next
        pure (Token.tag (some "!") uri, c)
  if isSpaceOrEnd c.current then return (token, c) else malformed

/-- A number in a version. -/
def scanNumber (c : Cursor) : Except DocumentFault (Nat × Cursor) :=
  match c.spanned isDigit with
  | [] => malformed
  | cs => .ok (ofDigits 10 (cs.filterMap (digitIn? 10)), c.forward cs.length)

/-- A directive: a version, a tag handle with what it is short for, or anything else. -/
def scanDirective (c : Cursor) : Except DocumentFault (Token × Cursor) := do
  let (name, c) ← scanWord c.next
  if !isSpaceOrEnd c.current then malformed
  let (directive, c) ←
    if name == "YAML" then do
      let (major, c) ← scanNumber c.skipSpaces
      if c.current != '.' then malformed
      let (_, c) ← scanNumber c.next
      if !isSpaceOrEnd c.current then malformed
      pure (Directive.version major, c)
    else if name == "TAG" then do
      let (handle, c) ← scanTagHandle c.skipSpaces
      if c.current != ' ' then malformed
      let (start, c) ← scanUri c.skipSpaces
      if !isSpaceOrEnd c.current then malformed
      pure (Directive.tag handle start, c)
    else pure (Directive.other, c.skipLine)
  return (.directive directive, ← c.ignoreLine)

/-! ## Block scalars -/

/-- What happens to the line breaks at the end of a block scalar. -/
inductive Chomping where
  | clip
  | strip
  | keep
deriving DecidableEq

def chomping? (ch : Char) : Option Chomping :=
  if ch == '+' then some .keep else if ch == '-' then some .strip else none

/-- The chomping and the indentation in the header of a block scalar, in either order. -/
def scanBlockHeader (c : Cursor) :
    Except DocumentFault (Chomping × Option Nat × Cursor) := do
  let digit (c : Cursor) : Except DocumentFault (Option Nat × Cursor) :=
    if isDigit c.current then
      if c.current == '0' then malformed
      else .ok (digitIn? 10 c.current, c.next)
    else .ok (none, c)
  let (chomping, increment, c) ←
    match chomping? c.current with
    | some chomping => do
      let (increment, c) ← digit c.next
      pure (chomping, increment, c)
    | none => do
      let (increment, c) ← digit c
      match increment, chomping? c.current with
      | some n, some chomping => pure (chomping, some n, c.next)
      | increment, _ => pure (Chomping.clip, increment, c)
  if isSpaceOrEnd c.current then return (chomping, increment, c) else malformed

/-- The line breaks before the first line with text, and the widest indentation among them. -/
def blockIndentation : Nat → Nat → Cursor → List Char × Nat × Cursor
  | 0, widest, c => ([], widest, c)
  | fuel + 1, widest, c =>
    if c.current == ' ' then
      let c := c.next
      blockIndentation fuel (max widest c.column) c
    else if isBreak c.current then
      let (b, c) := c.lineBreak
      let (bs, widest, c) := blockIndentation fuel widest c
      (b ++ bs, widest, c)
    else ([], widest, c)

/-- Skips spaces up to a column. -/
def skipTo (indent : Nat) (c : Cursor) : Cursor :=
  c.forward (min (c.spanned (· == ' ')).length (indent - c.column))

/-- The line breaks of empty lines, and the place after the indentation of the next line. -/
def blockBreaks (indent : Nat) : Nat → Cursor → List Char × Cursor
  | 0, c => ([], c)
  | fuel + 1, c =>
    let c := skipTo indent c
    if isBreak c.current then
      let (b, c) := c.lineBreak
      let (bs, c) := blockBreaks indent fuel c
      (b ++ bs, c)
    else ([], c)

/-- The text of a block scalar line by line, with what the lines are joined by. `breaks` are the
breaks since the line before. The answer also has the last line break and the breaks after it. -/
def blockLines (folded : Bool) (indent : Nat) :
    Nat → List Char → Cursor → List Char × List Char × List Char × Cursor
  | 0, breaks, c => ([], [], breaks, c)
  | fuel + 1, breaks, c =>
    if c.column == indent && !c.atEnd then
      let startsPlain := !isOneOf " \t" c.current
      let body := c.spanned fun ch => !isBreakOrEnd ch
      let (lineBreak, c) := (c.forward body.length).lineBreak
      let (more, c) := blockBreaks indent (c.rest.length + 1) c
      if c.column == indent && !c.atEnd then
        let joint :=
          if folded && lineBreak == ['\n'] && startsPlain && !isOneOf " \t" c.current then
            if more.isEmpty then [' '] else []
          else lineBreak
        let (rest, lastBreak, tail, c) := blockLines folded indent fuel more c
        (breaks ++ body ++ joint ++ rest, lastBreak, tail, c)
      else (breaks ++ body, lineBreak, more, c)
    else ([], [], breaks, c)

/-- A block scalar under a block whose indentation is `outer`. -/
def scanBlockScalar (folded : Bool) (outer : Int) (c : Cursor) :
    Except DocumentFault (Token × Cursor) := do
  let (chomping, increment, c) ← scanBlockHeader c.next
  let c ← c.ignoreLine
  let least := (max (outer + 1) 1).toNat
  let (indent, breaks, c) : Nat × List Char × Cursor :=
    match increment with
    | none =>
      let (breaks, widest, c) := blockIndentation (c.rest.length + 1) 0 c
      (max least widest, breaks, c)
    | some n =>
      let (breaks, c) := blockBreaks (least + n - 1) (c.rest.length + 1) c
      (least + n - 1, breaks, c)
  let (body, lastBreak, tail, c) := blockLines folded indent (c.rest.length + 1) breaks c
  let ending :=
    match chomping with
    | .clip => lastBreak
    | .strip => []
    | .keep => lastBreak ++ tail
  return (.scalar (String.ofList (body ++ ending)) false, c)

/-! ## Quoted scalars -/

/-- What a letter after a backslash stands for. -/
def escaped? (ch : Char) : Option Char :=
  match ch with
  | '0' => some '\x00'
  | 'a' => some '\x07'
  | 'b' => some '\x08'
  | 't' => some '\t'
  | '\t' => some '\t'
  | 'n' => some '\n'
  | 'v' => some '\x0b'
  | 'f' => some '\x0c'
  | 'r' => some '\r'
  | 'e' => some '\x1b'
  | ' ' => some ' '
  | '"' => some '"'
  | '\\' => some '\\'
  | '/' => some '/'
  | 'N' => some '\u0085'
  | '_' => some '\u00A0'
  | 'L' => some '\u2028'
  | 'P' => some '\u2029'
  | _ => none

/-- How many hexadecimal digits follow a letter after a backslash. -/
def escapeWidth? (ch : Char) : Option Nat :=
  if ch == 'x' then some 2 else if ch == 'u' then some 4 else if ch == 'U' then some 8 else none

/-- The character given by hexadecimal digits; a number beyond all characters is refused. Half of a
surrogate pair has no character and becomes the replacement character. -/
def hexChar (width : Nat) (c : Cursor) : Except DocumentFault (Char × Cursor) :=
  match (c.rest.take width).mapM (digitIn? 16) with
  | some ds =>
    let n := ofDigits 16 ds
    if ds.length != width then malformed
    else if Word.bound 32 ≤ n then .error (.refused .outOfRange)
    else if 0x10FFFF < n then .error (.refused .badValue)
    else .ok (unitChar n, c.forward width)
  | none => malformed

/-- The line breaks of empty lines inside a quoted scalar. -/
def quotedBreaks : Nat → Cursor → Except DocumentFault (List Char × Cursor)
  | 0, c => .ok ([], c)
  | fuel + 1, c =>
    if c.documentMark then malformed
    else
      let c := c.skip (isOneOf " \t")
      if isBreak c.current then do
        let (b, c) := c.lineBreak
        let (bs, c) ← quotedBreaks fuel c
        return (b ++ bs, c)
      else .ok ([], c)

/-- The text of a quoted scalar up to its closing quote, which is read too. A single line break
between lines becomes a space, and blanks around line breaks are dropped. -/
def quotedChars (quote : Char) : Nat → Cursor → Except DocumentFault (List Char × Cursor)
  | 0, _ => malformed
  | fuel + 1, c =>
    let double := quote == '"'
    let ch := c.current
    let keep (cs : List Char) (c : Cursor) : Except DocumentFault (List Char × Cursor) := do
      let (more, c) ← quotedChars quote fuel c
      return (cs ++ more, c)
    if c.atEnd then malformed
    else if !double && ch == '\'' && c.peek 1 == '\'' then keep ['\''] (c.forward 2)
    else if ch == quote then .ok ([], c.next)
    else if double && ch == '\\' then
      let c := c.next
      match escaped? c.current, escapeWidth? c.current with
      | some e, _ => keep [e] c.next
      | _, some width => do
        let (e, c) ← hexChar width c.next
        keep [e] c
      | _, _ =>
        if isBreak c.current then do
          let (_, c) := c.lineBreak
          let (bs, c) ← quotedBreaks (c.rest.length + 1) c
          keep bs c
        else malformed
    else if isOneOf " \t" ch || isBreak ch then
      let blanks := c.spanned (isOneOf " \t")
      let c := c.forward blanks.length
      if c.atEnd then malformed
      else if isBreak c.current then do
        let (b, c) := c.lineBreak
        let (bs, c) ← quotedBreaks (c.rest.length + 1) c
        let joint := if b != ['\n'] then b else if bs.isEmpty then [' '] else []
        keep (joint ++ bs) c
      else keep blanks c
    else keep [ch] c.next

def scanQuoted (c : Cursor) : Except DocumentFault (Token × Cursor) := do
  let (cs, c) ← quotedChars c.current (c.rest.length + 1) c.next
  return (.scalar (String.ofList cs) false, c)

/-! ## Plain scalars -/

/-- Does a plain scalar end before the character here? -/
def endsPlain (inFlow : Bool) (c : Cursor) : Bool :=
  let ch := c.current
  isGapOrEnd ch ||
    (ch == ':' && (isGapOrEnd (c.peek 1) || (inFlow && isOneOf ",[]\x7b\x7d" (c.peek 1)))) ||
    (inFlow && isOneOf ",?[]\x7b\x7d" ch)

/-- The characters of a plain scalar up to a gap or its end. -/
def plainRun (inFlow : Bool) : Nat → Cursor → List Char × Cursor
  | 0, c => ([], c)
  | fuel + 1, c =>
    if endsPlain inFlow c then ([], c)
    else
      let (cs, rest) := plainRun inFlow fuel c.next
      (c.current :: cs, rest)

/-- Spaces and line breaks before the next line with text; nothing if a document ends or begins on
the way. -/
def plainBreaks : Nat → Cursor → Option (List Char) × Cursor
  | 0, c => (some [], c)
  | fuel + 1, c =>
    if c.current == ' ' then plainBreaks fuel c.next
    else if isBreak c.current then
      let (b, c) := c.lineBreak
      if c.documentMark then (none, c)
      else
        let (bs, c) := plainBreaks fuel c
        (bs.map (b ++ ·), c)
    else (some [], c)

/-- What joins two runs of a plain scalar, if it can go on, and whether a line break was crossed. -/
def plainGap (c : Cursor) : List Char × Bool × Cursor :=
  let blanks := c.spanned (· == ' ')
  let c := c.forward blanks.length
  if isBreak c.current then
    let (b, c) := c.lineBreak
    if c.documentMark then ([], true, c)
    else
      let (bs, c) := plainBreaks (c.rest.length + 1) c
      match bs with
      | none => ([], true, c)
      | some bs =>
        ((if b != ['\n'] then b else if bs.isEmpty then [' '] else []) ++ bs, true, c)
  else (blanks, false, c)

/-- The text of a plain scalar, and whether it ends after a line break. `joint` joins it to the run
before. -/
def plainChars (inFlow : Bool) (indent : Int) :
    Nat → List Char → Bool → Cursor → List Char × Bool × Cursor
  | 0, _, crossed, c => ([], crossed, c)
  | fuel + 1, joint, crossed, c =>
    if c.current == '#' then ([], crossed, c)
    else
      let (run, c) := plainRun inFlow (c.rest.length + 1) c
      if run.isEmpty then ([], crossed, c)
      else
        let (gap, crossed, c) := plainGap c
        if gap.isEmpty || c.current == '#' || (!inFlow && (c.column : Int) < indent) then
          (joint ++ run, crossed, c)
        else
          let (more, crossed, c) := plainChars inFlow indent fuel gap crossed c
          (joint ++ run ++ more, crossed, c)

/-- A plain scalar under a block whose indentation is `outer`, and whether it ends after a line
break. -/
def scanPlain (inFlow : Bool) (outer : Int) (c : Cursor) : Token × Bool × Cursor :=
  let (cs, crossed, c) := plainChars inFlow (outer + 1) (c.rest.length + 1) [] false c
  (.scalar (String.ofList cs) true, crossed, c)

end RecordSchema.Yaml
