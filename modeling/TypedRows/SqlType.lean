/-!
# SQL types

The native types of database columns (`SqlType`) with the numbers by which drivers report them. `name` and `code`
are both injective; `ofName?` and `ofCode?` are their inverses.
-/

namespace TypedRows

inductive SqlType where
  | bit | tinyint | smallint | integer | bigint | float | real | double | numeric | decimal
  | char | varchar | longvarchar | nchar | nvarchar | longnvarchar | date | time | timestamp
  | binary | varbinary | longvarbinary | blob | clob | nclob | boolean | null | rowid | other
  | javaObject | distinct | struct | array | ref | datalink | sqlxml
deriving DecidableEq, Repr, Inhabited

namespace SqlType

def all : List SqlType :=
  [.bit, .tinyint, .smallint, .integer, .bigint, .float, .real, .double, .numeric, .decimal,
   .char, .varchar, .longvarchar, .nchar, .nvarchar, .longnvarchar, .date, .time, .timestamp,
   .binary, .varbinary, .longvarbinary, .blob, .clob, .nclob, .boolean, .null, .rowid, .other,
   .javaObject, .distinct, .struct, .array, .ref, .datalink, .sqlxml]

/-- The number by which drivers report the type. -/
def code : SqlType → Int
  | .bit => -7
  | .tinyint => -6
  | .smallint => 5
  | .integer => 4
  | .bigint => -5
  | .float => 6
  | .real => 7
  | .double => 8
  | .numeric => 2
  | .decimal => 3
  | .char => 1
  | .varchar => 12
  | .longvarchar => -1
  | .nchar => -15
  | .nvarchar => -9
  | .longnvarchar => -16
  | .date => 91
  | .time => 92
  | .timestamp => 93
  | .binary => -2
  | .varbinary => -3
  | .longvarbinary => -4
  | .blob => 2004
  | .clob => 2005
  | .nclob => 2011
  | .boolean => 16
  | .null => 0
  | .rowid => -8
  | .other => 1111
  | .javaObject => 2000
  | .distinct => 2001
  | .struct => 2002
  | .array => 2003
  | .ref => 2006
  | .datalink => 70
  | .sqlxml => 2009

def name : SqlType → String
  | .bit => "BIT"
  | .tinyint => "TINYINT"
  | .smallint => "SMALLINT"
  | .integer => "INTEGER"
  | .bigint => "BIGINT"
  | .float => "FLOAT"
  | .real => "REAL"
  | .double => "DOUBLE"
  | .numeric => "NUMERIC"
  | .decimal => "DECIMAL"
  | .char => "CHAR"
  | .varchar => "VARCHAR"
  | .longvarchar => "LONGVARCHAR"
  | .nchar => "NCHAR"
  | .nvarchar => "NVARCHAR"
  | .longnvarchar => "LONGNVARCHAR"
  | .date => "DATE"
  | .time => "TIME"
  | .timestamp => "TIMESTAMP"
  | .binary => "BINARY"
  | .varbinary => "VARBINARY"
  | .longvarbinary => "LONGVARBINARY"
  | .blob => "BLOB"
  | .clob => "CLOB"
  | .nclob => "NCLOB"
  | .boolean => "BOOLEAN"
  | .null => "NULL"
  | .rowid => "ROWID"
  | .other => "OTHER"
  | .javaObject => "JAVA_OBJECT"
  | .distinct => "DISTINCT"
  | .struct => "STRUCT"
  | .array => "ARRAY"
  | .ref => "REF"
  | .datalink => "DATALINK"
  | .sqlxml => "SQLXML"

def ofCode? (code : Int) : Option SqlType := all.find? fun t => t.code == code

/-- The type with a name, in upper case. -/
def ofName? (name : String) : Option SqlType := all.find? fun t => t.name == name

/-- The range of an integer column narrower than 32 bits (`NARROW_INTEGER_RANGES`). -/
def narrowRange? : SqlType → Option (Int × Int)
  | .tinyint => some (-128, 127)
  | .smallint => some (-32768, 32767)
  | _ => none

def isNarrowInteger (t : SqlType) : Bool := t.narrowRange?.isSome

/-- The column holds dates, times or both (`TEMPORAL_TYPES`). -/
def isTemporal : SqlType → Bool
  | .date | .time | .timestamp => true
  | _ => false

theorem mem_all (t : SqlType) : t ∈ all := by cases t <;> decide

theorem ofCode?_code (t : SqlType) : ofCode? t.code = some t := by cases t <;> decide

theorem ofName?_name (t : SqlType) : ofName? t.name = some t := by cases t <;> decide

end SqlType

end TypedRows
