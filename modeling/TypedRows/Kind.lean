import TypedRows.SqlType
/-!
# Kinds of values

A `Kind` says which values a field of a record may hold, whatever the database calls the column.
`ofSqlType?` (`kind_for_sql_type`) gives the kind of the columns that have one.
-/

namespace TypedRows

inductive Kind where
  | null | boolean | int32 | int64 | float32 | float64 | string | bytes | array | map | record | union
deriving DecidableEq, Repr, Inhabited

namespace Kind

def all : List Kind :=
  [.null, .boolean, .int32, .int64, .float32, .float64, .string, .bytes, .array, .map, .record, .union]

def name : Kind → String
  | .null => "null"
  | .boolean => "boolean"
  | .int32 => "int"
  | .int64 => "long"
  | .float32 => "float"
  | .float64 => "double"
  | .string => "string"
  | .bytes => "bytes"
  | .array => "array"
  | .map => "map"
  | .record => "record"
  | .union => "union"

def ofName? (name : String) : Option Kind := all.find? fun k => k.name == name

/-- Values of the kind have no parts, so they can be bound to a statement. -/
def isScalar : Kind → Bool
  | .array | .map | .record | .union => false
  | _ => true

def int32Range : Int × Int := (-2147483648, 2147483647)

def int64Range : Int × Int := (-9223372036854775808, 9223372036854775807)

/-- The kind of the values in a column, for the types that records can hold. -/
def ofSqlType? : SqlType → Option Kind
  | .null => some .null
  | .rowid | .char | .varchar | .longvarchar | .nchar | .nvarchar | .longnvarchar | .clob | .nclob =>
    some .string
  | .bit | .boolean => some .boolean
  | .tinyint | .smallint | .integer => some .int32
  | .bigint | .date | .time | .timestamp => some .int64
  | .real | .float => some .float32
  | .numeric | .decimal | .double => some .float64
  | .binary | .varbinary | .longvarbinary | .blob => some .bytes
  | .other | .javaObject | .distinct | .struct | .array | .ref | .datalink | .sqlxml => none

/-- The type assumed for a column of which nothing is known but the kind of its field. -/
def defaultSqlType : Kind → SqlType
  | .null => .null
  | .boolean => .boolean
  | .int32 => .integer
  | .int64 => .bigint
  | .float32 => .real
  | .float64 => .double
  | .string => .varchar
  | .bytes => .varbinary
  | .array | .map | .record | .union => .other

end Kind

end TypedRows
