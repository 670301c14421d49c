import TypedRows.Cell.Literal
import TypedRows.Dialect
import TypedRows.Schema
import TypedRows.Text.PatternReader
/-!
# Failures

Every way in which an operation of the library can fail, as a cause with the data that belongs to it.
`Error.message` puts a cause into words. The first four groups are the library's own: a type that is
not supported, parts that do not fit together, a number out of range, and a large object that could not
be read. The others are refusals of single values.
-/

namespace TypedRows

/-- A type has no counterpart. -/
inductive Unsupported where
  /-- A type name or number that means no SQL type. -/
  | typeName (code : Cell) (column : Option String)
  /-- A driver's type code that the dialect does not know. -/
  | driverCode (dialect : Dialect) (code : Cell) (column : Option String)
  /-- A SQL type whose values no field can hold. -/
  | sqlType (type : SqlType) (column : Option String)
  /-- A field whose values have parts cannot be written as bytes. -/
  | composite (field : String) (kind : Kind) (value : Cell)

namespace Unsupported

/-- The column or field concerned. -/
def column : Unsupported → Option String
  | .typeName _ column | .driverCode _ _ column | .sqlType _ column => column
  | .composite field .. => some field

def code : Unsupported → Cell
  | .typeName code _ | .driverCode _ code _ => code
  | .sqlType type _ => .sqlType type
  | .composite .. => .null

def kind? : Unsupported → Option Kind
  | .composite _ kind _ => some kind
  | _ => none

def message : Unsupported → String
  | .typeName code column =>
    "Unsupported SQL type " ++ code.literal ++ " for column " ++ Text.quotedOrNone column
  | .driverCode dialect code column =>
    "Unsupported " ++ dialect.name ++ " type code " ++ code.literal ++ " for column " ++
      Text.quotedOrNone column
  | .sqlType type column =>
    "Unsupported SQL type " ++ type.name ++ " (" ++ toString type.code ++ ") for column " ++
      Text.quotedOrNone column
  | .composite _ kind value =>
    "Unsupported datatype: " ++ kind.name ++ " with value: " ++ value.literal

end Unsupported

/-- Records, schemas, rows and column types do not fit together. -/
inductive Mismatch where
  | emptyFieldName
  | repeatedField (field schema : String)
  | noSuchField (field schema : String)
  /-- Only fields whose values have no parts can be bound to a statement. -/
  | notScalar (field : String) (kind : Kind)
  /-- Values are given for names that the schema does not have: the first of them and the others. -/
  | unknownNames (first : String) (rest : List String) (schema : String)
  | missingValue (field : String)
  | nullValue (field : String)
  | invalidValue (field : String) (kind : Kind) (value : Cell)
  | typeCount (schema : String) (fields types : Nat)
  | tableSize (schema : String) (fields entries : Nat)
  | tableName (position : Nat) (entry : Option String) (field : String)
  | rowColumn (column schema : String)
  | rowSize (columns : Nat) (schema : String) (fields : Nat)
  | otherSchema (found expected : Schema)
  /-- A holder without a record or without column types cannot be bound. -/
  | incompleteHolder
  /-- A holder without a record cannot be written as bytes. -/
  | emptyHolder

namespace Mismatch

/-- The field concerned, if it is one field. -/
def field? : Mismatch → Option String
  | .repeatedField field _ | .noSuchField field _ | .notScalar field _ | .missingValue field
  | .nullValue field | .invalidValue field .. | .tableName _ _ field => some field
  | .unknownNames first .. => some first
  | _ => none

def message : Mismatch → String
  | .emptyFieldName => "Field name must not be empty"
  | .repeatedField field schema =>
    "Duplicate field " ++ Text.quoted field ++ " in schema " ++ Text.quoted schema
  | .noSuchField field schema =>
    "Field " ++ Text.quoted field ++ " not in schema " ++ Text.quoted schema
  | .notScalar field kind =>
    "Only simple types are supported (boolean, int, long, float, double, string, bytes) for writing " ++
      "a record, but found " ++ Text.quoted kind.name ++ " as the type for column " ++
      Text.quoted field ++ ". Remove this column or transform it to a simple type."
  | .unknownNames first rest schema =>
    "Fields " ++ bracketed "[" "]" ((first :: rest).map Text.quoted) ++ " are not in schema " ++
      Text.quoted schema
  | .missingValue field => "Missing value for field " ++ Text.quoted field
  | .nullValue field => "Null value for non-nullable field " ++ Text.quoted field
  | .invalidValue field kind value =>
    "Value " ++ value.literal ++ " of type " ++ value.typeName ++ " is not valid for field " ++
      Text.quoted field ++ " of kind " ++ Text.quoted kind.name
  | .typeCount schema fields types =>
    "Schema " ++ Text.quoted schema ++ " has " ++ toString fields ++ " fields but " ++
      toString types ++ " column types were supplied"
  | .tableSize schema fields entries =>
    "Schema " ++ Text.quoted schema ++ " has " ++ toString fields ++
      " fields but the column type table has " ++ toString entries ++ " entries"
  | .tableName position entry field =>
    "Column type table entry " ++ toString position ++ " is for " ++ Text.quotedOrNone entry ++
      " but schema field " ++ toString position ++ " is " ++ Text.quoted field
  | .rowColumn column schema =>
    "Row has no column " ++ Text.quoted column ++ " for schema " ++ Text.quoted schema
  | .rowSize columns schema fields =>
    "Row has " ++ toString columns ++ " columns but schema " ++ Text.quoted schema ++ " has " ++
      toString fields ++ " fields"
  | .otherSchema found expected =>
    "Record schema " ++ found.literal ++ " does not match " ++ expected.literal
  | .incompleteHolder => "DBRecord needs a record and column types to write"
  | .emptyHolder => "DBRecord has no record to serialize"

end Mismatch

/-- A number lies outside the range of its target. Numbers are kept as they were given. -/
inductive RangeFault where
  | target (value lower upper : Cell) (target : String)
  | epochMillis (value : Cell)
  | stringLength (field : String) (bytes : Nat)

/-- The longest text, in bytes, that a record can be written with. -/
def maxStringBytes : Nat := 65535

namespace RangeFault

def value : RangeFault → Cell
  | .target value .. | .epochMillis value => value
  | .stringLength _ bytes => .int bytes

/-- The least number allowed. -/
def lower : RangeFault → Cell
  | .target _ lower .. => lower
  | .epochMillis _ => .int minEpochMillis
  | .stringLength .. => .int 0

/-- The greatest number allowed. -/
def upper : RangeFault → Cell
  | .target _ _ upper _ => upper
  | .epochMillis _ => .int maxEpochMillis
  | .stringLength .. => .int maxStringBytes

/-- A range as text. -/
def rangeText (e : RangeFault) : String := "[" ++ e.lower.formatted ++ ", " ++ e.upper.formatted ++ "]"

def message (e : RangeFault) : String :=
  match e with
  | .target value _ _ name =>
    "Value " ++ value.formatted ++ " out of range " ++ e.rangeText ++ " for " ++ name
  | .epochMillis value => "Epoch milliseconds " ++ value.formatted ++ " out of range " ++ e.rangeText
  | .stringLength field bytes =>
    "String for field " ++ Text.quoted field ++ " is " ++ toString bytes ++ " bytes, limit is " ++
      toString maxStringBytes

end RangeFault

inductive LobSort where
  | binary | character
deriving DecidableEq, Repr

def LobSort.name : LobSort → String
  | .binary => "BLOB"
  | .character => "CLOB"

/-- The text of a failure from outside. -/
def Fault.message (f : Fault) : String :=
  match f.kind with
  | .key => Text.quoted f.text
  | _ => f.text

/-- A value has a type that an operation cannot use. Types are given by their names. -/
inductive TypeFault where
  | notInteger (type : String)
  | notNumber (type : String)
  | notBytes (type : String)
  | notByte (type : String)
  | textAsBytes
  | unhashable (type : String)
  | signalingKey
  /-- Values of the two types have no order. -/
  | notOrdered (left right : String)
  | notDuration (type : String)
  /-- A sequence stands where one number is wanted. -/
  | notOneNumber
  | unsized (type : String)
  | notIndexed (type : String)
  | notIterable (type : String)
  | notUnpacked (type : String)
  | bytesAsText
  | notText (type : String)
  | notPattern
  | notEntry (position : Nat)
  | lossyInteger

def TypeFault.message : TypeFault → String
  | .notInteger type =>
    "int() argument must be a string, a bytes-like object or a real number, not '" ++ type ++ "'"
  | .notNumber type => "float() argument must be a string or a real number, not '" ++ type ++ "'"
  | .notBytes type => "cannot convert '" ++ type ++ "' object to bytes"
  | .notByte type => "'" ++ type ++ "' object cannot be interpreted as an integer"
  | .textAsBytes => "string argument without an encoding"
  | .unhashable type => "unhashable type: '" ++ type ++ "'"
  | .signalingKey => "Cannot hash a signaling NaN value"
  | .notOrdered left right =>
    "'<=' not supported between instances of '" ++ left ++ "' and '" ++ right ++ "'"
  | .notDuration type => "unsupported type for timedelta milliseconds component: " ++ type
  | .notOneNumber => "only 0-dimensional arrays can be converted to Python scalars"
  | .unsized type => "object of type '" ++ type ++ "' has no len()"
  | .notIndexed type => "'" ++ type ++ "' object is not subscriptable"
  | .notIterable type => "'" ++ type ++ "' object is not iterable"
  | .notUnpacked type => "cannot unpack non-iterable " ++ type ++ " object"
  | .bytesAsText => "cannot use a string pattern on a bytes-like object"
  | .notText type => "expected string or bytes-like object, got '" ++ type ++ "'"
  | .notPattern => "first argument must be string or compiled pattern"
  | .notEntry position =>
    "cannot convert dictionary update sequence element #" ++ toString position ++ " to a sequence"
  | .lossyInteger => "cannot safely cast non-equivalent float64 to int64"

/-- A value of the right type that an operation refuses. -/
inductive ValueFault where
  | dialect
  | typeNameCount (columns names : Nat)
  | rowShort (got : Nat)
  | rowLong
  /-- Parameters that have no value, counted from 1: the first and the others. -/
  | unbound (first : Nat) (rest : List Nat)
  | integerText (text : String)
  | numberText (text : String)
  | manyDigits (count : Nat)
  /-- An integer has more digits than can be written. -/
  | longInteger
  /-- The items of a sequence of sequences do not form an array: the lengths as far as they agree. -/
  | ragged (shape : List Nat)
  /-- A sequence of sequences has too many levels. -/
  | deepNesting
  /-- A sequence stands for an item of an array. -/
  | sequenceItem
  | undefinedInteger
  | undefinedDecimalInteger
  | signalingNumber
  | negativeCount
  | byteRange
  | entrySize (position size : Nat)
  /-- A sequence does not hold the value. -/
  | absent
  /-- An array without items stands where a truth value is wanted. -/
  | emptyArray
  /-- An array with several items stands where a truth value is wanted. -/
  | severalItems
  | sliceStep
  /-- A whole pattern is said to be in ASCII and not to be. -/
  | opposedFlags
  | blob (e : BlobError)

/-- The most digits that an integer may be read from or written with. -/
def maxIntegerDigits : Nat := 4300

/-- The most levels of an array. -/
def maxLevels : Nat := 64

/-- What is said of a sequence in the place of a number. -/
def sequenceItemText : String := "setting an array element with a sequence."

def dialectNames : String := bracketed "[" "]" (Dialect.all.map fun d => Text.quoted d.name)

def ValueFault.message : ValueFault → String
  | .dialect => "dialect must be one of: " ++ dialectNames
  | .typeNameCount columns names =>
    "Expected " ++ toString columns ++ " type names, got " ++ toString names
  | .rowShort got => "not enough values to unpack (expected 6, got " ++ toString got ++ ")"
  | .rowLong => "too many values to unpack (expected 6)"
  | .unbound first rest =>
    "No value specified for parameters " ++ bracketed "[" "]" ((first :: rest).map toString)
  | .integerText text => "invalid literal for int() with base 10: " ++ text
  | .numberText text => "could not convert string to float: " ++ text
  | .manyDigits count =>
    "Exceeds the limit (4300 digits) for integer string conversion: value has " ++ toString count ++
      " digits; use sys.set_int_max_str_digits() to increase the limit"
  | .longInteger =>
    "Exceeds the limit (4300 digits) for integer string conversion; use sys.set_int_max_str_digits() " ++
      "to increase the limit"
  | .ragged shape =>
    sequenceItemText ++ " The requested array has an inhomogeneous shape after " ++
      toString shape.length ++ " dimensions. The detected shape was " ++
      tupleText (shape.map toString) ++ " + inhomogeneous part."
  | .deepNesting =>
    sequenceItemText ++ " The requested array would exceed the maximum number of dimension of " ++
      toString maxLevels ++ "."
  | .sequenceItem => sequenceItemText
  | .undefinedInteger => "cannot convert float NaN to integer"
  | .undefinedDecimalInteger => "cannot convert NaN to integer"
  | .signalingNumber => "cannot convert signaling NaN to float"
  | .negativeCount => "negative count"
  | .byteRange => "bytes must be in range(0, 256)"
  | .entrySize position size =>
    "dictionary update sequence element #" ++ toString position ++ " has length " ++ toString size ++
      "; 2 is required"
  | .absent => ""
  | .emptyArray =>
    "The truth value of an empty array is ambiguous. Use `array.size > 0` to check that an array is not " ++
      "empty."
  | .severalItems =>
    "The truth value of an array with more than one element is ambiguous. Use a.any() or a.all()"
  | .sliceStep => "slice step cannot be zero"
  | .opposedFlags => "ASCII and UNICODE flags are incompatible"
  | .blob e => e.message

/-- A result is too large for its type. -/
inductive OverflowFault where
  | integer
  | quotient
  | infiniteInteger
  | infiniteDecimalInteger
  | single
  | calendar
  /-- A count does not fit into a machine word. -/
  | count (type : String)
  /-- A buffer would be longer than buffers can be. -/
  | buffer
  /-- A pattern is to be repeated too often. -/
  | repetition
  | codePoint

def OverflowFault.message : OverflowFault → String
  | .integer => "int too large to convert to float"
  | .quotient => "integer division result too large for a float"
  | .infiniteInteger => "cannot convert float infinity to integer"
  | .infiniteDecimalInteger => "cannot convert Infinity to integer"
  | .single => "float too large to pack with f format"
  | .calendar => "date value out of range"
  | .count type => "cannot fit '" ++ type ++ "' into an index-sized integer"
  | .buffer => "byte string is too large"
  | .repetition => "the repetition number is too large"
  | .codePoint => "Python int too large to convert to C int"

/-- A position lies outside a sequence. -/
inductive PositionFault where
  | parameter (index count : Int)
  | entry

def PositionFault.message : PositionFault → String
  | .parameter index count =>
    "Parameter index " ++ toString index ++ " out of range 1.." ++ toString count
  | .entry => "tuple index out of range"

/-- A failure of an operation of the library. -/
inductive Error where
  | unsupported (e : Unsupported)
  | mismatch (e : Mismatch)
  | range (e : RangeFault)
  /-- A large object could not be read. -/
  | resource (sort : LobSort) (cause : Fault)
  | type (e : TypeFault)
  | value (e : ValueFault)
  | overflow (e : OverflowFault)
  | position (e : PositionFault)
  /-- A value of a type, given by its name, lacks an attribute. -/
  | attribute (owner name : String)
  /-- A table lacks a key. -/
  | key (missing : Cell)
  /-- An undefined decimal cannot be compared. -/
  | undefinedComparison
  /-- A stored instant has no order with an integer. -/
  | instantOrder
  /-- There is not enough memory for a buffer. -/
  | memory
  | pattern (e : Text.PatternError)
  /-- A failure from outside that is passed on as it is. -/
  | fault (f : Fault)

/-- The storage types of an instant and of an integer. -/
def instantAndInteger : String × String :=
  ("<class 'numpy.dtypes.DateTime64DType'>", "<class 'numpy.dtypes._PyLongDType'>")

/-- What is said of an instant that is compared with an integer. -/
def instantOrderText : String :=
  "The DType " ++ instantAndInteger.1 ++ " could not be promoted by " ++ instantAndInteger.2 ++
    ". This means that no common DType exists for the given inputs. For example they cannot be stored in " ++
    "a single array unless the dtype is `object`. The full list of DTypes is: " ++
    tupleText [instantAndInteger.1, instantAndInteger.2]

/-- The failure in words. -/
def Error.message : Error → String
  | .unsupported e => e.message
  | .mismatch e => e.message
  | .range e => e.message
  | .resource sort cause => "Failed to read " ++ sort.name ++ " value: " ++ cause.message
  | .type e => e.message
  | .value e => e.message
  | .overflow e => e.message
  | .position e => e.message
  | .attribute owner name => "'" ++ owner ++ "' object has no attribute '" ++ name ++ "'"
  | .key missing => missing.literal
  | .undefinedComparison => "[<class 'decimal.InvalidOperation'>]"
  | .instantOrder => instantOrderText
  | .memory => ""
  | .pattern e => e.message
  | .fault f => f.message

/-- The failure as it leaves a generator in which it was raised. The library itself signals no end of an
iteration, so only a failure from outside can change. -/
def Error.leavingGenerator : Error → Error
  | .fault f => .fault f.leavingGenerator
  | e => e

def Error.ofPattern : Text.PatternFailure → Error
  | .refused e => .pattern e
  | .largeRepetition => .overflow .repetition
  | .largeCodePoint => .overflow .codePoint
  | .manyDigits count => .value (.manyDigits count)
  | .opposedFlags => .value .opposedFlags

/-- Refuses a value because of its type. -/
def failType {α : Type} (e : TypeFault) : Except Error α := .error (.type e)

/-- Refuses a value of the right type. -/
def failValue {α : Type} (e : ValueFault) : Except Error α := .error (.value e)

/-- Refuses a value because the result would be too large. -/
def failOverflow {α : Type} (e : OverflowFault) : Except Error α := .error (.overflow e)

end TypedRows
