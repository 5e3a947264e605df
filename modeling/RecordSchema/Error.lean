import RecordSchema.Name
import RecordSchema.Value.Fault

/-!
# Errors and reports

What can go wrong, by cause. A refusal by the rules of values has no words of its own; every other
error carries what its message tells, and `Error.message` has the wording.

A computation that may fail also reports: `Report` keeps what was said up to the failure.
-/

set_option autoImplicit false

namespace RecordSchema

/-- Why the value of a field was not accepted by a validating model. -/
inductive Mismatch where
  | missing
  | extraForbidden
  | intType
  | intParsing
  | intParsingSize
  | intFromFloat
  | finiteNumber
  | floatType
  | floatParsing
  | stringType
  | stringUnicode
  | bytesType
  | boolType
  | boolParsing
  | decimalType
  | decimalParsing
  | complexType
  | dateType
  | dateFromDatetimeParsing
  | dateFromDatetimeInexact
  | datetimeType
  | datetimeParsing
  | datetimeFromDateParsing
  | listType
  | tupleType
  | tooLong
  | setType
  | frozenSetType
  | setItemNotHashable
  | dictType
  | iterableType
  | instanceType
  | sequenceText
  | literalError
  | noneRequired
  | callableType
  | classType
  | subclassType
  | hashableType
deriving DecidableEq

/-- The word for a mismatch. -/
def Mismatch.word : Mismatch → String
  | missing => "missing"
  | extraForbidden => "extra_forbidden"
  | intType => "int_type"
  | intParsing => "int_parsing"
  | intParsingSize => "int_parsing_size"
  | intFromFloat => "int_from_float"
  | finiteNumber => "finite_number"
  | floatType => "float_type"
  | floatParsing => "float_parsing"
  | stringType => "string_type"
  | stringUnicode => "string_unicode"
  | bytesType => "bytes_type"
  | boolType => "bool_type"
  | boolParsing => "bool_parsing"
  | decimalType => "decimal_type"
  | decimalParsing => "decimal_parsing"
  | complexType => "complex_type"
  | dateType => "date_type"
  | dateFromDatetimeParsing => "date_from_datetime_parsing"
  | dateFromDatetimeInexact => "date_from_datetime_inexact"
  | datetimeType => "datetime_type"
  | datetimeParsing => "datetime_parsing"
  | datetimeFromDateParsing => "datetime_from_date_parsing"
  | listType => "list_type"
  | tupleType => "tuple_type"
  | tooLong => "too_long"
  | setType => "set_type"
  | frozenSetType => "frozen_set_type"
  | setItemNotHashable => "set_item_not_hashable"
  | dictType => "dict_type"
  | iterableType => "iterable_type"
  | instanceType => "is_instance_of"
  | sequenceText => "sequence_str"
  | literalError => "literal_error"
  | noneRequired => "none_required"
  | callableType => "callable_type"
  | classType => "is_type"
  | subclassType => "is_subclass_of"
  | hashableType => "is_hashable"

/-- A step on the way to a value inside a model: a field or key, or a place in a list. -/
inductive Step where
  | key (name : String)
  | place (index : Int)
deriving DecidableEq

/-- A mismatch and where it is. -/
structure Complaint where
  cause : Mismatch
  place : List Step
deriving DecidableEq

inductive Error where
  | refused (cause : Refusal)
  /-- A policy was given by something that is no policy word. -/
  | unknownPolicy (given : Value)
  | invalidName (policy : NamePolicy) (name : Value)
  | duplicateField (name : String)
  | unknownOptions (options : List String) (field : Value)
  | inheritance (name : String)
  | appendAfterFinalize (block : Value) (field : String)
  | finalizeTwice (block : Value)
  | emitWhileOpen (block : Value)
  | declareAfterEnd (block : Value) (field : Value)
  | blockAborted (block : Value)
  | noSuchField (schema : Value) (field : Value)
  | unexpectedKeywords (owner : Value) (names : List String)
  | missingRequired (owner : Value) (names : List String)
  /-- Fields were asked of something that is neither a record nor a record class. -/
  | notRecord (given : Value)
  /-- Field values were asked of a class. -/
  | fieldsOfClass
  /-- A row of a frame is not a record of the frame's class. -/
  | wrongRow (expected : String) (kind : String)
  | unsupportedFile (name : String)
  | unreadable (path : String) (cause : String)
  | notMapping (path : String) (kind : String)
  | noStructs
  | malformedStruct (name : String)
  | malformedField (name : String) (index : Nat)
  | unwritable (path : String) (cause : String)
  | invalidModel (complaints : List Complaint)

namespace Error

open RecordSchema.Text Value

/-- The words of an error; a refusal and a failed validation have none. -/
def message : Error → Option String
  | refused _ => Option.none
  | invalidModel _ => Option.none
  | unknownPolicy given =>
    some ("name policy must be one of " ++ quotedList ["lower_snake", "python"] ++ " (got " ++
      given.shown ++ ")")
  | invalidName policy name =>
    let wanted :=
      match policy, name with
      | .lowerSnake, .text _ => "a lower_snake identifier"
      | _, _ => "a valid identifier"
    some ("a field name must be " ++ wanted ++ ", got " ++ name.shown)
  | duplicateField name => some ("the field " ++ quoted name ++ " is already set")
  | unknownOptions options field =>
    some ("unknown option(s) " ++ quotedList options ++ " for field " ++ field.shown ++
      " (allowed=" ++ quotedList ["default", "enforce"] ++ ")")
  | inheritance name => some (name ++ ": typed structs cannot inherit from other classes")
  | appendAfterFinalize block field =>
    some (block.display ++ ": cannot append " ++ quoted field ++ " after finalize")
  | finalizeTwice block => some (block.display ++ ": already finalized")
  | emitWhileOpen block => some (block.display ++ ": cannot emit while accumulating")
  | declareAfterEnd block field =>
    some (block.display ++ ": cannot declare " ++ field.shown ++ " after the block ended")
  | blockAborted block =>
    some (block.display ++ ": block was aborted by an earlier declaration error")
  | noSuchField schema field => some (schema.display ++ " has no field " ++ field.shown)
  | unexpectedKeywords owner names =>
    some (owner.display ++ ".__init__() got unexpected keyword argument(s): " ++
      commas (names.map quoted))
  | missingRequired owner names =>
    some (owner.display ++ ": missing required field(s): " ++ commas names)
  | notRecord given => some ("expected a typed struct class or instance, got " ++ given.shown)
  | fieldsOfClass => some "asdict() should be called on struct instances"
  | wrongRow expected kind => some ("expected " ++ expected ++ " instances, got " ++ kind)
  | unsupportedFile name =>
    some ("unsupported declaration file " ++ quoted name ++
      " (expected .yaml, .yml, .json or .toml)")
  | unreadable path cause => some ("failed to read " ++ path ++ ": " ++ cause)
  | notMapping path kind => some (path ++ ": document must be a mapping, got " ++ kind)
  | noStructs => some "document must contain a 'structs' mapping"
  | malformedStruct name =>
    some ("struct " ++ quoted name ++ ": expected a mapping with a 'fields' list")
  | malformedField name index =>
    some ("struct " ++ quoted name ++ ": field #" ++ Nat.repr index ++
      " must be a mapping with 'name' and 'type'")
  | unwritable path cause => some ("failed to write " ++ path ++ ": " ++ cause)

/-- The values that the words of an error show. -/
def shownValues : Error → List Value
  | unknownPolicy v | invalidName _ v | unknownOptions _ v | finalizeTwice v | emitWhileOpen v
  | blockAborted v | appendAfterFinalize v _ | unexpectedKeywords v _ | missingRequired v _
  | notRecord v => [v]
  | declareAfterEnd block field => [block, field]
  | noSuchField schema field => [schema, field]
  | _ => []

/-- An error as it comes about: if its words cannot be formed, that is the error. -/
def raised (e : Error) : Error :=
  ((e.shownValues.findSome? printFault?).map refused).getD e

/-- The kind of a fault of a declaration. -/
def faultKind : Error → String
  | invalidName .. => "InvalidFieldName"
  | duplicateField .. => "DuplicateFieldError"
  | unknownOptions .. => "UnknownOptionError"
  | _ => "SchemaError"

/-- The printed form of a fault of a declaration. -/
def shown (e : Error) : String :=
  e.faultKind ++ "(" ++ quoted (e.message.getD "") ++ ")"

/-- A fault of a declaration, which ends its block. -/
def isDeclaration : Error → Bool
  | invalidName .. | duplicateField .. | unknownOptions .. | inheritance .. => true
  | _ => false

end Error

/-- How much a log entry matters. -/
inductive Level where
  | debug
  | info
  | warning
  | error
  | critical
deriving DecidableEq

namespace Level

def all : List Level := [.debug, .info, .warning, .error, .critical]

def word : Level → String
  | .debug => "DEBUG"
  | .info => "INFO"
  | .warning => "WARNING"
  | .error => "ERROR"
  | .critical => "CRITICAL"

def rank : Level → Nat
  | .debug => 10
  | .info => 20
  | .warning => 30
  | .error => 40
  | .critical => 50

def ofWord? (word : String) : Option Level := all.find? (·.word == word)

end Level

/-- The parts of the program that speak in the log. -/
inductive Speaker where
  | declaration
  | accumulator
  | builder
  | reader
  | settings
  | environment
deriving DecidableEq

/-- The name that a part goes by in the log. -/
def Speaker.name : Speaker → String
  | declaration => "typedstruct.core.declaration"
  | accumulator => "typedstruct.core.accumulator"
  | builder => "typedstruct.core.builder"
  | reader => "typedstruct.io.read"
  | settings => "typedstruct.config"
  | environment => "dotenv.main"

/-- A line of the log. -/
structure LogEntry where
  level : Level
  speaker : Speaker
  message : String
deriving DecidableEq

/-- The result of a computation together with what it reported on the way, failed or not. -/
structure Report (α : Type) where
  log : List LogEntry
  result : Except Error α

namespace Report

variable {α β : Type}

def pure (a : α) : Report α := ⟨[], .ok a⟩

def fail (e : Error) : Report α := ⟨[], .error e.raised⟩

def refuse (cause : Refusal) : Report α := fail (.refused cause)

def bind (r : Report α) (f : α → Report β) : Report β :=
  match r.result with
  | .ok a => ⟨r.log ++ (f a).log, (f a).result⟩
  | .error e => ⟨r.log, .error e⟩

instance : Monad Report where
  pure := pure
  bind := bind

def ofExcept (e : Except Error α) : Report α := ⟨[], e⟩

/-- Says one line. -/
def say (level : Level) (speaker : Speaker) (message : String) : Report Unit :=
  ⟨[⟨level, speaker, message⟩], .ok ()⟩

end Report

end RecordSchema
