/-
**Errors and their causes.**

An error is its cause: what was wrong, with the names and numbers that its message shows.  The
message is a function of the cause, and so is the kind, which names the part of the library that
refuses.

Main definitions:

* `ErrorKind` — the parts of the library that refuse, and the head of their messages;
* `Error` — **the causes**;
* `Error.kind`, `Error.detail`, `Error.message` — kind and message of a cause;
* `Error.isDuplicateObject` — whether a command complains that an object exists already.
-/

import ModelSql.Operator
import ModelSql.Text.Basic
import ModelSql.Value.Kind

set_option autoImplicit false

namespace ModelSql

/-! ### Kinds -/

/-- The parts of the library that refuse. -/
inductive ErrorKind
  | definition | notSupported | literal | evaluation | command | config | validation
  deriving DecidableEq, Repr

namespace ErrorKind

/-- All kinds. -/
def all : List ErrorKind :=
  [definition, notSupported, literal, evaluation, command, config, validation]

/-- The name of a kind. -/
def name : ErrorKind → String
  | definition => "Definition"
  | notSupported => "NotSupported"
  | literal => "Literal"
  | evaluation => "Evaluation"
  | command => "Command"
  | config => "Config"
  | validation => "Validation"

/-- The kind of a name. -/
def ofName? (s : String) : Option ErrorKind := all.find? (·.name == s)

/-- The head of the messages of a kind. -/
def head : ErrorKind → String
  | definition => "Definition error: "
  | notSupported => "Not supported: "
  | literal => "Literal error: "
  | evaluation => "Evaluation error: "
  | command => "Command error: "
  | config => "Configuration error: "
  | validation => "Validation error: "

end ErrorKind

/-! ### Causes -/

/-- What cannot be written as a part of a statement. -/
inductive Untranslatable
  | conversion (name : String)
  | function (name : String)
  | constantTarget (method : StringMethod)
  | columnArgument (method : StringMethod)
  deriving DecidableEq, Repr

/-- The words for it. -/
def Untranslatable.text : Untranslatable → String
  | conversion name => "conversion `" ++ name ++ "` of a column"
  | function name => "method `" ++ name ++ "`"
  | constantTarget m => m.name ++ " on a constant with a column argument"
  | columnArgument m => m.name ++ " with a column argument"

/-- The document formats that settings and schemas are written in. -/
inductive DocumentFormat
  | toml | json
  deriving DecidableEq, Repr

/-- The causes of errors; `reported` is one that a command or a row brings along. -/
inductive Error
  -- models
  | emptyModelName
  | noFields (model : String)
  | emptyFieldName (model : String)
  | duplicateField (model field : String)
  | duplicateColumn (model field column : String)
  | generatedType (model field type : String)
  | incompleteForeignKey (model field : String)
  | emptyIndex (model : String)
  | unknownIndexField (model field : String)
  | twoKinds (model : String)
  | unknownKeyField (model field : String)
  | severalKeys (model : String) (count : Nat)
  | scaleAbovePrecision (field : String) (scale precision : Nat)
  -- dialects
  | noSequences (dialect sequence : String)
  | noProcedureSelect (dialect procedure : String)
  | noProcedureCall (dialect procedure : String)
  | noLastInsertId (dialect : String)
  | precisionTooLarge (dialect : String) (most : Nat) (field : String) (precision : Nat)
  | noAlterColumn (column model : String)
  | untranslatable (what : Untranslatable)
  | notAColumn
  -- literals
  | noFloatLiteral (float : String)
  | unknownOrdinal (ordinal : Int) (type : String)
  | unknownVariant (variant type : String)
  | notAGuid (text : String)
  | decimalPlaces (decimal : String) (scale : Nat) (field : String)
  -- evaluation
  | mismatch (op : BinaryOp) (left right : ValueKind)
  | unaryMismatch (op : UnaryOp) (operand : ValueKind)
  | negationOverflow
  | divisionByZero
  | remainderByZero
  | integerOverflow (op : BinaryOp)
  | decimalOverflow (op : BinaryOp)
  | shiftOutOfRange (amount : Int)
  | nullTarget (method : StringMethod)
  | missingArgument (method : StringMethod)
  | negativeStart
  | functionFailed (name : String)
  -- commands
  | sequenceAnswer (sequence : String) (answer : ValueKind)
  | queryAnswer (sql : String) (answer : ValueKind)
  -- settings and schemas
  | malformed (format : DocumentFormat)
  | unknownDialect (name : String)
  | emptyStringLength
  | settingsScale (scale precision : Nat)
  | affixesWithoutNaming
  | enumWithoutVariants (field : String)
  | variantsWithoutEnum (field : String)
  | lengthAndPrecision (field : String)
  | unreadableSchema (path reason : String)
  -- rows and descriptors
  | emptyRowField
  | readOnlyField (field : String)
  | noKey (model : String)
  | nothingToUpdate (model : String)
  | nothingToInsert (model : String)
  | unknownField (model name : String)
  | missingRawArgument (placeholder : String) (given : Nat)
  | oneItem
  | oneArgument (method : StringMethod)
  | startNotInteger
  | lengthNotInteger
  | noGeneratedValue
  -- commands and rows of a host
  | reported (kind : ErrorKind) (detail : String)
  deriving DecidableEq, Repr

namespace Error

/-- The kind of a cause. -/
def kind : Error → ErrorKind
  | emptyModelName | noFields _ | emptyFieldName _ | duplicateField .. | duplicateColumn ..
  | generatedType .. | incompleteForeignKey .. | emptyIndex _ | unknownIndexField .. | twoKinds _
  | unknownKeyField .. | severalKeys .. | scaleAbovePrecision .. => .definition
  | noSequences .. | noProcedureSelect .. | noProcedureCall .. | noLastInsertId _
  | precisionTooLarge .. | noAlterColumn .. | untranslatable _ | notAColumn => .notSupported
  | noFloatLiteral _ | unknownOrdinal .. | unknownVariant .. | notAGuid _ | decimalPlaces .. =>
    .literal
  | mismatch .. | unaryMismatch .. | negationOverflow | divisionByZero | remainderByZero
  | integerOverflow _ | decimalOverflow _ | shiftOutOfRange _ | nullTarget _ | missingArgument _
  | negativeStart | functionFailed _ => .evaluation
  | sequenceAnswer .. | queryAnswer .. => .command
  | malformed _ | unknownDialect _ | emptyStringLength | settingsScale .. | affixesWithoutNaming
  | enumWithoutVariants _ | variantsWithoutEnum _ | lengthAndPrecision _ | unreadableSchema .. =>
    .config
  | emptyRowField | readOnlyField _ | noKey _ | nothingToUpdate _ | nothingToInsert _
  | unknownField .. | missingRawArgument .. | oneItem | oneArgument _ | startNotInteger
  | lengthNotInteger | noGeneratedValue => .validation
  | reported k _ => k

/-- The message of a cause, without the head of its kind. -/
def detail : Error → String
  | emptyModelName => "model name cannot be empty"
  | noFields m => m ++ " declares no fields"
  | emptyFieldName m => m ++ " has a field with an empty name"
  | duplicateField m f => m ++ "." ++ f ++ " is declared twice"
  | duplicateColumn m f c =>
    m ++ "." ++ f ++ " maps to column `" ++ c ++ "` which is already mapped"
  | generatedType m f t => m ++ "." ++ f ++ " is generated but has type " ++ t
  | incompleteForeignKey m f => m ++ "." ++ f ++ " has an incomplete foreign key"
  | emptyIndex m => m ++ " has an empty composite index"
  | unknownIndexField m f =>
    "composite index on " ++ m ++ " references undeclared field `" ++ f ++ "`"
  | twoKinds m => m ++ " declares both a composite key and a primary key field"
  | unknownKeyField m f => "composite key on " ++ m ++ " references undeclared field `" ++ f ++ "`"
  | severalKeys m n =>
    m ++ " declares " ++ toString n ++ " primary key fields; use a composite key"
  | scaleAbovePrecision f s p =>
    f ++ " has scale " ++ toString s ++ " larger than precision " ++ toString p
  | noSequences d s => d ++ " has no sequences (requested " ++ s ++ ")"
  | noProcedureSelect d p => d ++ " cannot select from procedure " ++ p
  | noProcedureCall d p => d ++ " cannot execute procedure " ++ p
  | noLastInsertId d => d ++ " has no last-insert-id query"
  | precisionTooLarge d most f p =>
    d ++ " supports DECIMAL precision up to " ++ toString most ++ ", " ++ f ++ " declares " ++
      toString p
  | noAlterColumn c m =>
    "SQLite cannot alter column " ++ c ++ " of " ++ m ++ "; rebuild the table instead"
  | untranslatable w => w.text ++ " cannot be translated to SQL"
  | notAColumn => "field lists may only contain columns"
  | noFloatLiteral f => f ++ " has no SQL literal form"
  | unknownOrdinal n t => toString n ++ " is not a variant of " ++ t
  | unknownVariant v t => "`" ++ v ++ "` is not a variant of " ++ t
  | notAGuid s => "`" ++ s ++ "` is not a GUID: 32 digits of base 16 are expected"
  | decimalPlaces d s f => d ++ " does not fit the scale " ++ toString s ++ " of " ++ f
  | mismatch op l r =>
    "cannot apply " ++ op.name ++ " to " ++ l.name ++ " and " ++ r.name ++ " values"
  | unaryMismatch op v => "cannot apply " ++ op.name ++ " to a " ++ v.name ++ " value"
  | negationOverflow => "attempt to negate with overflow"
  | divisionByZero => "attempt to divide by zero"
  | remainderByZero => "attempt to calculate the remainder with a divisor of zero"
  | integerOverflow op => "integer overflow in " ++ op.name
  | decimalOverflow op => "decimal overflow in " ++ op.name
  | shiftOutOfRange n => "shift amount " ++ toString n ++ " out of range"
  | nullTarget m => m.name ++ " on a null value"
  | missingArgument m => m.name ++ " takes one argument"
  | negativeStart => "substring start must be a non-negative integer"
  | functionFailed f => f ++ " failed"
  | sequenceAnswer s v => "sequence " ++ s ++ " returned a " ++ v.name ++ " value"
  | queryAnswer s v => s ++ " returned a " ++ v.name ++ " value"
  | malformed .toml => "TOML parse error"
  | malformed .json => "JSON parse error"
  | unknownDialect n => "unknown dialect `" ++ n ++ "`"
  | emptyStringLength => "default_string_length must be positive"
  | settingsScale s p =>
    "decimal_scale " ++ toString s ++ " exceeds decimal_precision " ++ toString p
  | affixesWithoutNaming => "table_prefix and column_prefix require naming = \"prefix\""
  | enumWithoutVariants f => "field `" ++ f ++ "` has type enum but no [enum] table"
  | variantsWithoutEnum f => "field `" ++ f ++ "` declares enum variants but is not of type enum"
  | lengthAndPrecision f => "field `" ++ f ++ "` sets both length and precision"
  | unreadableSchema p r => "failed to read schema file " ++ p ++ ": " ++ r
  | emptyRowField => "field name cannot be empty"
  | readOnlyField f => "cannot set " ++ f
  | noKey m => "cannot update a " ++ m ++ " row without a primary key"
  | nothingToUpdate m => "no updatable fields selected for " ++ m
  | nothingToInsert m => "no insertable fields selected for " ++ m
  | unknownField m n => m ++ " has no field `" ++ n ++ "`"
  | missingRawArgument p n =>
    "placeholder " ++ p ++ " has no argument (" ++ toString n ++ " given)"
  | oneItem => "contains takes exactly one argument"
  | oneArgument m => m.name ++ " takes one argument"
  | startNotInteger => "substring start must be an integer"
  | lengthNotInteger => "substring length must be an integer"
  | noGeneratedValue => "no generator value has been fetched by an insert yet"
  | reported _ d => d

/-- **The message of a cause.** -/
def message (e : Error) : String := e.kind.head ++ e.detail

@[simp] theorem kind_reported (k : ErrorKind) (d : String) : (reported k d).kind = k := rfl

@[simp] theorem detail_reported (k : ErrorKind) (d : String) : (reported k d).detail = d := rfl

/-- Whether the cause is a feature that a dialect lacks. -/
def isNotSupported (e : Error) : Bool := e.kind == .notSupported

/-- Whether the cause is the shape of a model. -/
def isDefinition (e : Error) : Bool := e.kind == .definition

/-- Whether a command complains that the object it creates exists already. -/
def isDuplicateObject (e : Error) : Bool :=
  e.kind == .command &&
    (let text := Text.asciiLower e.detail
     Text.contains text "already exists" || Text.contains text "attempt to store duplicate value")

end Error

end ModelSql
