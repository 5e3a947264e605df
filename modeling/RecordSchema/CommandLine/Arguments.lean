import RecordSchema.Text.Quoted

/-!
# Arguments of a command

A command takes one argument by its place and one by a long option, besides the option that asks for
help. An option may be shortened as long as it stays clear which one is meant, and its value stands
behind an equals sign or in the next argument. Two dashes alone end the options.

A request for help takes effect where it is read, so a fault before it is told instead.
-/

set_option autoImplicit false

namespace RecordSchema.CommandLine

open RecordSchema.Text

/-- The arguments that a command takes. -/
structure Usage where
  command : String
  summary : String
  /-- The argument told by its place. -/
  operand : String
  operandHelp : String
  /-- The long option, with its two dashes. -/
  option : String
  /-- What stands for the value of the option in usage texts. -/
  placeholder : String
  optionHelp : String
  /-- Has the option to be given? -/
  mandatory : Bool

/-- What an option is given. -/
inductive OptionValue where
  | text (s : String)
  /-- Two dashes attached to the option, which are taken away and leave nothing. -/
  | nothing
deriving DecidableEq

/-- The value attached to an option. -/
def OptionValue.ofAttached (s : String) : OptionValue := if s == "--" then .nothing else .text s

/-- What the arguments of a command come to. -/
inductive Request where
  | help
  | refused (message : String)
  | run (operand : String) (option : Option OptionValue)
deriving DecidableEq

/-- The options of every command. -/
inductive Flag where
  | help
  | valued
deriving DecidableEq

/-- An argument by its form. -/
inductive Token where
  /-- An argument that stands for itself. -/
  | plain (text : String)
  /-- Two dashes that end the options. -/
  | divider
  /-- An option with the value attached to it, and whether the option is a single letter. -/
  | flag (which : Flag) (single : Bool) (attached : Option String)
  | unknown (text : String)

namespace Usage

/-- The usage line. -/
def line (u : Usage) : String :=
  let option := u.option ++ " " ++ u.placeholder
  "usage: " ++ u.command ++ " [-h] " ++ (if u.mandatory then option else "[" ++ option ++ "]") ++
    " " ++ u.operand

/-- A row of the help text: an argument, and its help from a common column on. -/
def helpRow (width : Nat) (argument help : String) : String :=
  "  " ++ argument ++ String.ofList (List.replicate (width - argument.length + 2) ' ') ++ help

/-- The help text, line by line. -/
def help (u : Usage) : List String :=
  let ask := "-h, --help"
  let option := u.option ++ " " ++ u.placeholder
  let width := max ask.length option.length
  [u.line, "", u.summary, "", "positional arguments:", helpRow width u.operand u.operandHelp, "",
   "options:", helpRow width ask "show this help message and exit",
   helpRow width option u.optionHelp]

/-- What is told about arguments that are refused, line by line. -/
def complaint (u : Usage) (message : String) : List String :=
  [u.line, u.command ++ ": error: " ++ message]

/-- The options in the order in which they are tried. -/
def spellings (u : Usage) : List (String × Flag) :=
  [("-h", .help), ("--help", .help), (u.option, .valued)]

/-- How an option is called in what is told about it. -/
def flagName (u : Usage) : Flag → String
  | .help => "-h/--help"
  | .valued => u.option

/-- An argument split at its first equals sign. -/
def splitAtEquals (s : String) : String × Option String :=
  let cs := s.toList
  match cs.dropWhile (· != '=') with
  | '=' :: rest => (String.ofList (cs.takeWhile (· != '=')), some (String.ofList rest))
  | _ => (s, none)

/-- Is a text a number with a minus sign in front? Such an argument stands for itself. -/
def isNegativeNumber (cs : List Char) : Bool :=
  match cs with
  | '-' :: rest =>
    let whole := rest.takeWhile (fun c => (digit? c).isSome)
    match rest.drop whole.length with
    | [] => !whole.isEmpty
    | ['\n'] => !whole.isEmpty
    | '.' :: fraction =>
      let digits := fraction.takeWhile (fun c => (digit? c).isSome)
      !digits.isEmpty &&
        (fraction.drop digits.length == [] || fraction.drop digits.length == ['\n'])
    | _ => false
  | _ => false

/-- The options that an argument may be short for, with their spellings. -/
def candidates (u : Usage) (s : String) : List (String × Token) :=
  let cs := s.toList
  match cs with
  | '-' :: '-' :: _ =>
    let (written, attached) := splitAtEquals s
    (u.spellings.filter fun p => written.toList.isPrefixOf p.1.toList).map fun p =>
      (p.1, .flag p.2 (p.1 == "-h") attached)
  | '-' :: letter :: rest =>
    u.spellings.filterMap fun p =>
      if p.1.toList == ['-', letter] then
        some (p.1, .flag p.2 true (some (String.ofList rest)))
      else if cs.isPrefixOf p.1.toList then some (p.1, .flag p.2 false none)
      else none
  | _ => []

/-- The form of an argument before the divider; a message if it may stand for several options. -/
def token (u : Usage) (s : String) : Except String Token :=
  let given (written : String) : Option Flag := (u.spellings.find? (·.1 == written)).map (·.2)
  match s.toList with
  | '-' :: _ :: _ =>
    match given s with
    | some flag => .ok (.flag flag (s == "-h") none)
    | none =>
      let (written, attached) := splitAtEquals s
      match (if attached.isSome then given written else none) with
      | some flag => .ok (.flag flag (written == "-h") attached)
      | none =>
        match u.candidates s with
        | [] =>
          if isNegativeNumber s.toList || s.contains ' ' then .ok (.plain s)
          else .ok (.unknown s)
        | [(_, token)] => .ok token
        | several =>
          .error ("ambiguous option: " ++ s ++ " could match " ++
            ", ".intercalate (several.map (·.1)))
  | _ => .ok (.plain s)

/-- The forms of all arguments, each with the argument as it was written. -/
def tokens (u : Usage) : List String → Except String (List (String × Token))
  | [] => .ok []
  | "--" :: rest => .ok (("--", .divider) :: rest.map fun s => (s, .plain s))
  | s :: rest => do return (s, ← u.token s) :: (← u.tokens rest)

/-- What has been read of the arguments. -/
structure Progress where
  operand : Option String := none
  option : Option OptionValue := none
  /-- Arguments that nothing takes, in order. -/
  extras : List String := []

/-- A group of single letters that begins with the request for help, read from behind it. All
letters have to ask for help; the first that does not is told, with what follows it. -/
def helpGroup (u : Usage) (attached : List Char) : Request :=
  match attached with
  | ['h'] => .help
  | 'h' :: c :: rest => helpGroup u (c :: rest)
  | attached =>
    .refused ("argument " ++ u.flagName .help ++ ": ignored explicit argument " ++
      quoted (String.ofList attached))

/-- What all arguments come to, once they are read. -/
def conclude (u : Usage) (p : Progress) : Request :=
  let absent :=
    (if p.operand.isNone then [u.operand] else []) ++
      (if u.mandatory && p.option.isNone then [u.option] else [])
  match p.operand, absent, p.extras with
  | some operand, [], [] => .run operand p.option
  | _, [], extras => .refused ("unrecognized arguments: " ++ " ".intercalate extras)
  | _, absent, _ =>
    .refused ("the following arguments are required: " ++ ", ".intercalate absent)

/-- Reads the arguments in order. At the start of a run of arguments that are no options, and only
there, the operand is taken; `fresh` tells whether a run starts here. -/
def read (u : Usage) (p : Progress) (fresh : Bool) : List (String × Token) → Request
  | [] => u.conclude p
  | (_, .flag .help single attached) :: _ =>
    match attached with
    | none => .help
    | some value =>
      if single then u.helpGroup value.toList
      else
        .refused ("argument " ++ u.flagName .help ++ ": ignored explicit argument " ++ quoted value)
  | (_, .flag .valued _ (some value)) :: rest =>
    u.read { p with option := some (.ofAttached value) } true rest
  | (_, .flag .valued _ none) :: (s, .plain _) :: rest =>
    u.read { p with option := some (.text s) } true rest
  | (_, .flag .valued _ none) :: _ =>
    .refused ("argument " ++ u.flagName .valued ++ ": expected one argument")
  | (s, .unknown _) :: rest => u.read { p with extras := p.extras ++ [s] } true rest
  | (s, .plain _) :: (t, .divider) :: rest =>
    if fresh && p.operand.isNone then u.read { p with operand := some s } false rest
    else u.read { p with extras := p.extras ++ [s, t] } false rest
  | (s, .plain _) :: rest =>
    if fresh && p.operand.isNone then u.read { p with operand := some s } false rest
    else u.read { p with extras := p.extras ++ [s] } false rest
  | (_, .divider) :: (s, .plain t) :: rest =>
    if fresh && p.operand.isNone then u.read { p with operand := some s } false rest
    else u.read { p with extras := p.extras ++ ["--"] } false ((s, .plain t) :: rest)
  | (s, .divider) :: rest => u.read { p with extras := p.extras ++ [s] } false rest

/-- What the arguments of a command come to. -/
def request (u : Usage) (arguments : List String) : Request :=
  match u.tokens arguments with
  | .ok tokens => u.read {} true tokens
  | .error message => .refused message

end Usage

end RecordSchema.CommandLine
