import TypedRows.SqlType
import TypedRows.Text.Blank
import TypedRows.Text.LetterCase
/-!
# Names of SQL types

Two readings of a type name. `ofTypeName?` is lenient: it knows every type and the usual other names,
and spaces inside a name do not matter. `ofDeclaredName?` knows the names that may stand in a table
declaration. Both look only at the part before the first parenthesis, without blanks around it and
without regard to case.
-/

namespace TypedRows.SqlType

/-- The part of a type name before its parameters, in upper case and without blanks around it. -/
def baseName (text : String) : List Char :=
  (Text.strip (text.toList.takeWhile (· ≠ '('))).flatMap Text.upperChar

/-- Other names of types, in upper case and without spaces (`TYPE_NAME_ALIASES`). -/
def aliases : List (String × SqlType) :=
  [("INT", .integer), ("INT2", .smallint), ("INT4", .integer), ("INT8", .bigint),
   ("FLOAT4", .real), ("FLOAT8", .double), ("DOUBLEPRECISION", .double), ("BOOL", .boolean),
   ("TEXT", .varchar), ("CHARACTER", .char), ("CHARACTERVARYING", .varchar),
   ("NTEXT", .longnvarchar), ("DATETIME", .timestamp), ("DATETIME2", .timestamp),
   ("TIMESTAMPTZ", .timestamp), ("TIMESTAMPWITHTIMEZONE", .timestamp),
   ("TIMESTAMPWITHOUTTIMEZONE", .timestamp), ("TIMETZ", .time), ("TIMEWITHTIMEZONE", .time),
   ("TIMEWITHOUTTIMEZONE", .time), ("BYTEA", .binary), ("IMAGE", .longvarbinary)]

/-- The type that a name means, by any of its names. -/
def ofTypeName? (text : String) : Option SqlType :=
  let name := String.ofList ((baseName text).filter (· ≠ ' '))
  match aliases.lookup name with
  | some t => some t
  | none => ofName? name

/-- The names that a table declaration may use. -/
def declaredNames : List (String × SqlType) :=
  [("INTEGER", .integer), ("INT", .integer), ("TINYINT", .tinyint), ("SMALLINT", .smallint),
   ("MEDIUMINT", .integer), ("BIGINT", .bigint), ("REAL", .real), ("FLOAT", .float),
   ("DOUBLE", .double), ("DOUBLE PRECISION", .double), ("NUMERIC", .numeric),
   ("DECIMAL", .decimal), ("BOOLEAN", .boolean), ("TEXT", .varchar), ("VARCHAR", .varchar),
   ("CHAR", .char), ("NCHAR", .nchar), ("NVARCHAR", .nvarchar), ("CLOB", .clob), ("BLOB", .blob),
   ("VARBINARY", .varbinary), ("DATE", .date), ("TIME", .time), ("DATETIME", .timestamp),
   ("TIMESTAMP", .timestamp)]

/-- The type that a name in a table declaration means. -/
def ofDeclaredName? (text : String) : Option SqlType :=
  declaredNames.lookup (String.ofList (baseName text))

end TypedRows.SqlType
