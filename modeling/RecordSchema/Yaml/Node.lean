import RecordSchema.TypeTerm.Column
import RecordSchema.Yaml.TokenStream

/-!
# From tokens to nodes

A node is a scalar, a sequence or a mapping, each with a tag. A tag that is not written is found by
the look of a plain scalar, or is the one for the kind of node. Anchors name nodes for aliases later
in the document, so the nodes form a graph, in which a collection may lie in itself.

The functions read from the front of a list of tokens and keep account of anchors. The fuel bounds
the number of steps and is set from the number of tokens.
-/

set_option autoImplicit false

namespace RecordSchema.Yaml

open RecordSchema.Text

/-- The prefix of the tags that YAML itself defines. -/
def coreTag (name : String) : String := "tag:yaml.org,2002:" ++ name

/-- What a node holds; other nodes are known by their places in the graph. -/
inductive Content where
  | scalar (text : String)
  | sequence (items : List Nat)
  | mapping (entries : List (Nat × Nat))
deriving Inhabited

structure Node where
  tag : String
  content : Content
deriving Inhabited

/-! ## The look of plain scalars -/

/-- Drops one line break at the end: it makes no difference to the look of a scalar. -/
def dropFinalBreak (cs : List Char) : List Char :=
  if cs.getLast? == some '\n' then cs.dropLast else cs

/-- Are all characters digits or underscores of a base? -/
def allIn (base : Nat) (cs : List Char) : Bool :=
  cs.all fun c => c == '_' || (digitIn? base c).isSome

def dropSign (cs : List Char) : List Char :=
  match cs with
  | '+' :: rest => rest
  | '-' :: rest => rest
  | cs => cs

/-- Parts of a number in base sixty after the first: one or two digits below sixty. -/
def isSexagesimalPart (part : List Char) : Bool :=
  match part with
  | [a] => isDigit a
  | [a, b] => '0' ≤ a && a ≤ '5' && isDigit b
  | _ => false

def isInteger (cs : List Char) : Bool :=
  match dropSign cs with
  | [] => false
  | '0' :: rest =>
    match rest with
    | [] => true
    | 'b' :: ds => !ds.isEmpty && allIn 2 ds
    | 'x' :: ds => !ds.isEmpty && allIn 16 ds
    | ds => allIn 8 ds
  | c :: rest =>
    isDigit c &&
      match TypeTerm.splitAt ':' rest with
      | [ds] => allIn 10 ds
      | ds :: parts => allIn 10 ds && parts.all isSexagesimalPart
      | [] => false

/-- Is there an exponent with a sign and digits, or nothing? -/
def isExponent (cs : List Char) : Bool :=
  match cs with
  | [] => true
  | e :: sign :: ds =>
    (e == 'e' || e == 'E') && (sign == '+' || sign == '-') && !ds.isEmpty && ds.all isDigit
  | _ => false

/-- Digits and underscores, then perhaps an exponent. -/
def isFractionTail (cs : List Char) : Bool :=
  isExponent (cs.dropWhile fun c => isDigit c || c == '_')

def isFloat (cs : List Char) : Bool :=
  let body := dropSign cs
  let word := String.ofList body
  word == ".inf" || word == ".Inf" || word == ".INF" ||
    [".nan", ".NaN", ".NAN"].contains (String.ofList cs) ||
    (match cs with
      | '.' :: d :: rest => isDigit d && isFractionTail rest
      | _ => false) ||
    (match body with
      | d :: rest =>
        isDigit d &&
          (match rest.dropWhile (fun c => isDigit c || c == '_') with
            | '.' :: tail => isFractionTail tail
            | ':' :: _ =>
              let whole := body.takeWhile (· != '.')
              match TypeTerm.splitAt ':' whole, body.drop whole.length with
              | first :: parts, '.' :: tail =>
                allIn 10 first && parts.all isSexagesimalPart &&
                  tail.all (fun c => isDigit c || c == '_')
              | _, _ => false
            | _ => false)
      | [] => false)

/-- One or two digits, as many as there are up to two. -/
def upToTwoDigits (cs : List Char) : Option (List Char × List Char) :=
  match cs with
  | a :: b :: rest =>
    if isDigit a && isDigit b then some ([a, b], rest)
    else if isDigit a then some ([a], b :: rest) else none
  | [a] => if isDigit a then some ([a], []) else none
  | [] => none

/-- Exactly two digits. -/
def exactlyTwoDigits (cs : List Char) : Option (List Char × List Char) :=
  match cs with
  | a :: b :: rest => if isDigit a && isDigit b then some ([a, b], rest) else none
  | _ => none

/-- The parts of a date, with a time of day and an offset if they are there. -/
structure Stamp where
  year : Nat
  month : Nat
  day : Nat
  /-- Hour, minute, second, and the digits of a fraction. -/
  time : Option (Nat × Nat × Nat × List Char) := none
  /-- Seconds from universal time. -/
  offset : Option Int := none
  /-- Were month and day written with two digits each? -/
  full : Bool

def number (ds : List Char) : Nat := ofDigits 10 (ds.filterMap (digitIn? 10))

/-- An offset at the end, after blanks. -/
def stampOffset (cs : List Char) : Option (Option Int) :=
  match cs.dropWhile fun c => c == ' ' || c == '\t' with
  | [] => if cs.isEmpty then some none else none
  | ['Z'] => some (some 0)
  | sign :: rest =>
    if sign == '+' || sign == '-' then do
      let (hours, rest) ← upToTwoDigits rest
      let minutes ←
        match rest with
        | [] => some []
        | ':' :: rest => do
          let (minutes, rest) ← exactlyTwoDigits rest
          if rest.isEmpty then some minutes else none
        | _ => none
      let seconds : Int := (number hours * 3600 + number minutes * 60 : Nat)
      return some (if sign == '-' then -seconds else seconds)
    else none

/-- The time of day after a date, behind a letter or blanks. -/
def stampTime (cs : List Char) : Option ((Nat × Nat × Nat × List Char) × List Char) := do
  let body ←
    match cs with
    | c :: rest =>
      if c == 'T' || c == 't' then some rest
      else if c == ' ' || c == '\t' then some (cs.dropWhile fun c => c == ' ' || c == '\t')
      else none
    | [] => none
  let (hour, rest) ← upToTwoDigits body
  match rest with
  | ':' :: rest =>
    let (minute, rest) ← exactlyTwoDigits rest
    match rest with
    | ':' :: rest =>
      let (second, rest) ← exactlyTwoDigits rest
      let (fraction, rest) : List Char × List Char :=
        match rest with
        | '.' :: rest => (rest.takeWhile isDigit, rest.dropWhile isDigit)
        | rest => ([], rest)
      return ((number hour, number minute, number second, fraction), rest)
    | _ => none
  | _ => none

/-- Reads a text as a date or a date and time. -/
def stamp? (text : List Char) : Option Stamp := do
  let cs := dropFinalBreak text
  let year := cs.take 4
  if year.length != 4 || !year.all isDigit then none
  match cs.drop 4 with
  | '-' :: rest =>
    let (month, rest) ← upToTwoDigits rest
    match rest with
    | '-' :: rest =>
      let (day, rest) ← upToTwoDigits rest
      let full := month.length == 2 && day.length == 2
      if rest.isEmpty then
        return { year := number year, month := number month, day := number day, full }
      let (time, rest) ← stampTime rest
      let offset ← stampOffset rest
      return { year := number year, month := number month, day := number day, time, offset, full }
    | _ => none
  | _ => none

/-- A date alone looks like one only if month and day have two digits each. -/
def isTimestamp (cs : List Char) : Bool :=
  match stamp? cs with
  | some s => s.time.isSome || s.full
  | none => false

def truthWords : List (String × Bool) :=
  [("yes", true), ("no", false), ("true", true), ("false", false), ("on", true), ("off", false)]

/-- The three spellings of a word: lower case, capitalised, upper case. -/
def spellings (w : String) : List String := [w, w.capitalize, w.toUpper]

def isTruth (s : String) : Bool := truthWords.any fun w => (spellings w.1).contains s

/-- The tag that the look of a plain scalar suggests. A line break alone looks like nothing. -/
def plainTag (text : String) : String :=
  let cs := dropFinalBreak text.toList
  let s := String.ofList cs
  if text == "\n" then coreTag "str"
  else if isTruth s then coreTag "bool"
  else if isFloat cs then coreTag "float"
  else if isInteger cs then coreTag "int"
  else if s == "<<" then coreTag "merge"
  else if s == "" || s == "~" || (spellings "null").contains s then coreTag "null"
  else if isTimestamp cs then coreTag "timestamp"
  else if s == "=" then coreTag "value"
  else if s == "!" || s == "&" || s == "*" then coreTag "yaml"
  else coreTag "str"

/-! ## Nodes -/

/-- What is left to read and what is known. -/
structure Parse where
  tokens : List Token
  /-- What tag handles are short for. -/
  handles : List (String × String)
  nodes : Array Node := #[]
  /-- The places of the nodes that anchors name. -/
  anchors : List (String × Nat) := []

namespace Parse

def drop (p : Parse) : Parse := { p with tokens := p.tokens.tail }

/-- The fault of the text, if it has been reached. -/
def check (p : Parse) : Except DocumentFault Unit :=
  match p.tokens with
  | .fault cause :: _ => .error cause
  | _ => .ok ()

/-- Is the next token one of these? -/
def sees (p : Parse) (ts : List Token) : Bool :=
  match p.tokens with
  | [] => false
  | t :: _ => ts.contains t

/-- Adds a node, under the name of an anchor if there is one. -/
def add (p : Parse) (anchor : Option String) (n : Node) : Nat × Parse :=
  let place := p.nodes.size
  let anchors :=
    match anchor with
    | some a => (a, place) :: p.anchors
    | none => p.anchors
  (place, { p with nodes := p.nodes.push n, anchors })

/-- Gives a node its content. -/
def fill (p : Parse) (place : Nat) (tag : String) (content : Content) : Parse :=
  { p with nodes := p.nodes.setIfInBounds place ⟨tag, content⟩ }

/-- The anchor and the tag before a node, in either order. -/
def properties (p : Parse) :
    Except DocumentFault (Option String × Option (Option String × String) × Parse) := do
  match p.tokens with
  | .anchor a :: rest =>
    let p := { p with tokens := rest }
    p.check
    match rest with
    | .tag h s :: rest => return (some a, some (h, s), { p with tokens := rest })
    | _ => return (some a, none, p)
  | .tag h s :: rest =>
    let p := { p with tokens := rest }
    p.check
    match rest with
    | .anchor a :: rest => return (some a, some (h, s), { p with tokens := rest })
    | _ => return (none, some (h, s), p)
  | _ => return (none, none, p)

/-- The full tag for a written one. -/
def fullTag (p : Parse) : Option (Option String × String) → Except DocumentFault (Option String)
  | none => .ok none
  | some (none, s) => .ok (some s)
  | some (some handle, s) =>
    match p.handles.find? (·.1 == handle) with
    | some h => .ok (some (h.2 ++ s))
    | none => malformed

/-- A written tag, or the one for the kind of node if none is written. -/
def tagOr (tag : Option String) (fallback : String) : String :=
  match tag with
  | none => fallback
  | some "!" => fallback
  | some t => t

/-- Adds a scalar without text where a node is left out. -/
def addEmpty (p : Parse) : Nat × Parse := p.add none ⟨plainTag "", .scalar ""⟩

end Parse

mutual

/-- A node. In a block, block sequences and mappings may begin; where a key's value is expected, a
sequence may stand without indentation of its own. A collection has its place before the nodes in
it, so that they may refer to it. -/
def node : Nat → Bool → Bool → Parse → Except DocumentFault (Nat × Parse)
  | 0, _, _, _ => malformed
  | fuel + 1, block, unindented, p => do
    p.check
    match p.tokens with
    | .aliasName a :: rest =>
      match p.anchors.find? (·.1 == a) with
      | some (_, place) => return (place, { p with tokens := rest })
      | none => malformed
    | _ =>
      let (anchor, written, p) ← p.properties
      let tag ← p.fullTag written
      p.check
      let sequenceTag := Parse.tagOr tag (coreTag "seq")
      let mappingTag := Parse.tagOr tag (coreTag "map")
      let opening : Option Bool :=
        match p.tokens with
        | .flowSequenceStart :: _ => some true
        | .flowMappingStart :: _ => some false
        | .blockEntry :: _ => if unindented then some true else none
        | .blockSequenceStart :: _ => if block then some true else none
        | .blockMappingStart :: _ => if block then some false else none
        | _ => none
      let isScalar :=
        match p.tokens with
        | .scalar _ _ :: _ => true
        | _ => false
      if opening.isNone && !isScalar && anchor.isNone && tag.isNone then malformed
      if p.anchors.any (fun a => some a.1 == anchor) then malformed
      match opening with
      | some true =>
        let (place, p) := p.add anchor ⟨sequenceTag, .sequence []⟩
        let (items, p) ←
          match p.tokens with
          | .flowSequenceStart :: _ => flowItems fuel true p.drop
          | .blockEntry :: _ => unindentedItems fuel p
          | _ => blockItems fuel p.drop
        return (place, p.fill place sequenceTag (.sequence items))
      | some false =>
        let (place, p) := p.add anchor ⟨mappingTag, .mapping []⟩
        let (entries, p) ←
          match p.tokens with
          | .flowMappingStart :: _ => flowEntries fuel true p.drop
          | _ => blockEntries fuel p.drop
        return (place, p.fill place mappingTag (.mapping entries))
      | none =>
        match p.tokens with
        | .scalar s plain :: rest =>
          let fallback := if plain || tag.isSome then plainTag s else coreTag "str"
          return { p with tokens := rest }.add anchor ⟨Parse.tagOr tag fallback, .scalar s⟩
        | _ => return p.add anchor ⟨Parse.tagOr tag (plainTag ""), .scalar ""⟩

/-- A node, or an empty one if a token follows that ends it. The end of the text ends nothing. -/
def nodeUnless : Nat → Bool → Bool → List Token → Parse → Except DocumentFault (Nat × Parse)
  | 0, _, _, _, _ => malformed
  | fuel + 1, block, unindented, ends, p => do
    p.check
    if p.sees ends then return p.addEmpty else node fuel block unindented p

/-- The items of a block sequence, up to the end of the block. -/
def blockItems : Nat → Parse → Except DocumentFault (List Nat × Parse)
  | 0, _ => malformed
  | fuel + 1, p => do
    p.check
    match p.tokens with
    | .blockEntry :: _ =>
      let (n, p) ← nodeUnless fuel true false [.blockEntry, .blockEnd] p.drop
      let (ns, p) ← blockItems fuel p
      return (n :: ns, p)
    | .blockEnd :: _ => return ([], p.drop)
    | _ => malformed

/-- The items of a sequence without indentation of its own. -/
def unindentedItems : Nat → Parse → Except DocumentFault (List Nat × Parse)
  | 0, _ => malformed
  | fuel + 1, p => do
    p.check
    match p.tokens with
    | .blockEntry :: _ =>
      let (n, p) ← nodeUnless fuel true false [.blockEntry, .key, .value, .blockEnd] p.drop
      let (ns, p) ← unindentedItems fuel p
      return (n :: ns, p)
    | _ => return ([], p)

/-- The value of a key in a block mapping; empty if there is none. -/
def blockValue : Nat → Parse → Except DocumentFault (Nat × Parse)
  | 0, _ => malformed
  | fuel + 1, p => do
    p.check
    match p.tokens with
    | .value :: _ => nodeUnless fuel true true [.key, .value, .blockEnd] p.drop
    | _ => return p.addEmpty

/-- The entries of a block mapping, up to the end of the block. -/
def blockEntries : Nat → Parse → Except DocumentFault (List (Nat × Nat) × Parse)
  | 0, _ => malformed
  | fuel + 1, p => do
    p.check
    match p.tokens with
    | .key :: _ =>
      let (k, p) ← nodeUnless fuel true true [.key, .value, .blockEnd] p.drop
      let (v, p) ← blockValue fuel p
      let (es, p) ← blockEntries fuel p
      return ((k, v) :: es, p)
    | .blockEnd :: _ => return ([], p.drop)
    | _ => malformed

/-- The value of a key between brackets of some kind; empty if there is none. -/
def flowValue : Nat → Token → Parse → Except DocumentFault (Nat × Parse)
  | 0, _, _ => malformed
  | fuel + 1, close, p => do
    p.check
    match p.tokens with
    | .value :: _ => nodeUnless fuel false false [.flowEntry, close] p.drop
    | _ => return p.addEmpty

/-- The items of a sequence between brackets. An item may be a mapping of a single entry. -/
def flowItems : Nat → Bool → Parse → Except DocumentFault (List Nat × Parse)
  | 0, _, _ => malformed
  | fuel + 1, first, p => do
    p.check
    match p.tokens with
    | .flowSequenceEnd :: _ => return ([], p.drop)
    | _ =>
      let p ←
        if first then pure p
        else if p.sees [.flowEntry] then pure p.drop
        else malformed
      p.check
      match p.tokens with
      | .key :: _ =>
        let (place, p) := p.add none ⟨coreTag "map", .mapping []⟩
        let (k, p) ← nodeUnless fuel false false [.value, .flowEntry, .flowSequenceEnd] p.drop
        let (v, p) ← flowValue fuel .flowSequenceEnd p
        let p := p.fill place (coreTag "map") (.mapping [(k, v)])
        let (ns, p) ← flowItems fuel false p
        return (place :: ns, p)
      | .flowSequenceEnd :: _ => return ([], p.drop)
      | _ =>
        let (n, p) ← node fuel false false p
        let (ns, p) ← flowItems fuel false p
        return (n :: ns, p)

/-- The entries of a mapping between braces. A node without a key mark is a key without a value. -/
def flowEntries : Nat → Bool → Parse → Except DocumentFault (List (Nat × Nat) × Parse)
  | 0, _, _ => malformed
  | fuel + 1, first, p => do
    p.check
    match p.tokens with
    | .flowMappingEnd :: _ => return ([], p.drop)
    | _ =>
      let p ←
        if first then pure p
        else if p.sees [.flowEntry] then pure p.drop
        else malformed
      p.check
      match p.tokens with
      | .key :: _ =>
        let (k, p) ← nodeUnless fuel false false [.value, .flowEntry, .flowMappingEnd] p.drop
        let (v, p) ← flowValue fuel .flowMappingEnd p
        let (es, p) ← flowEntries fuel false p
        return ((k, v) :: es, p)
      | .flowMappingEnd :: _ => return ([], p.drop)
      | _ =>
        let (k, p) ← node fuel false false p
        let (v, p) := p.addEmpty
        let (es, p) ← flowEntries fuel false p
        return ((k, v) :: es, p)

end

/-- The tag handles that every document has. -/
def standardHandles : List (String × String) := [("!", "!"), ("!!", coreTag "")]

/-- The handles that directives define, and the tokens after them. A version has to be of the first
major number and stand once, and no handle may be defined twice. -/
def directives : List Token → Bool → List (String × String) →
    Except DocumentFault (List (String × String) × List Token)
  | .directive (.version major) :: rest, seen, handles =>
    if seen || major != 1 then malformed else directives rest true handles
  | .directive (.tag handle start) :: rest, seen, handles =>
    if handles.any (·.1 == handle) then malformed
    else directives rest seen ((handle, start) :: handles)
  | .directive .other :: rest, seen, handles => directives rest seen handles
  | .fault cause :: _, _, _ => .error cause
  | rest, _, handles => .ok (handles, rest)

def isDocumentEnd : Token → Bool
  | .documentEnd => true
  | _ => false

/-- Is a token one that cannot begin the content of a document? -/
def isOutside : Token → Bool
  | .directive _ | .documentStart | .documentEnd => true
  | _ => false

/-- The nodes of the only document among tokens and the place of its root, if there is a document
at all. -/
def document (ts : List Token) : Except DocumentFault (Option (Array Node × Nat)) := do
  let fuel := 4 * ts.length + 16
  let (root, p) ←
    match ts with
    | [] => return none
    | t :: _ =>
      match t with
      | .directive _ | .documentStart => do
        let (handles, rest) ← directives ts false []
        match rest with
        | .documentStart :: rest =>
          let p : Parse := { tokens := rest, handles := handles ++ standardHandles }
          p.check
          match rest with
          | [] => pure p.addEmpty
          | next :: _ => if isOutside next then pure p.addEmpty else node fuel true false p
        | _ => malformed
      | _ => node fuel true false { tokens := ts, handles := standardHandles }
  match p.tokens.dropWhile isDocumentEnd with
  | [] => return some (p.nodes, root)
  | .fault cause :: _ => .error cause
  | _ => malformed

end RecordSchema.Yaml
