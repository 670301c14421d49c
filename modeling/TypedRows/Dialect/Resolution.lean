import TypedRows.Environment
import TypedRows.SqlType.Coercion
/-!
# Types of result columns

`resolve` (`resolve_sql_type`) finds the type of a column from what the driver tells of it. An override
comes first, then a type code that is already a type, then the meaning of the code in the dialect, and last
the declared type name.
-/

namespace TypedRows

/-- The numbers of a server type and of the arrays of it, and its SQL type. -/
structure ServerType where
  number : Nat
  arrayNumber : Nat
  sqlType : SqlType
deriving DecidableEq, Repr

def serverTypes : List ServerType :=
  [⟨18, 1002, .char⟩, ⟨1042, 1014, .char⟩, ⟨1043, 1015, .varchar⟩, ⟨25, 1009, .varchar⟩,
   ⟨19, 1003, .varchar⟩, ⟨21, 1005, .smallint⟩, ⟨23, 1007, .integer⟩, ⟨20, 1016, .bigint⟩,
   ⟨700, 1021, .real⟩, ⟨701, 1022, .double⟩, ⟨1700, 1231, .numeric⟩, ⟨16, 1000, .boolean⟩,
   ⟨1082, 1182, .date⟩, ⟨1083, 1183, .time⟩, ⟨1266, 1270, .time⟩, ⟨1114, 1115, .timestamp⟩,
   ⟨1184, 1185, .timestamp⟩, ⟨17, 1001, .binary⟩]

/-- The SQL type of each number of the server: its own, or that of arrays. -/
def serverNumbers : List (Nat × SqlType) :=
  serverTypes.map (fun t => (t.number, t.sqlType)) ++
    serverTypes.map fun t => (t.arrayNumber, SqlType.array)

/-- The type of a server's number. Any number with that value will do; a code that cannot be a key is
refused. -/
def serverType (code : Cell) : Except Error (Option SqlType) := do
  code.checkKey
  return (serverNumbers.find? fun entry => (Cell.int entry.1).sameKey code).map (·.2)

/-- The type that a name in a table declaration means. -/
def declaredType (code : Cell) : Option SqlType := code.asText?.bind SqlType.ofDeclaredName?

/-- The type that a code means in a dialect. -/
def Dialect.typeOf (dialect : Dialect) (code : Cell) : Except Error (Option SqlType) :=
  match dialect with
  | .postgresql => serverType code
  | .sqlite => .ok (declaredType code)
  | .sqlserver | .odbc | .jdbc => .ok (code.asInt?.bind SqlType.ofCode?)

/-- The type of a column that has no override. -/
def resolveDriver (dialect : Dialect) (code : Cell) (column typeName : Option String) :
    Except Error SqlType := do
  if let .sqlType t := code then return t
  if let some t ← dialect.typeOf code then return t
  match typeName with
  | none | some "" => code.refuse (.unsupported (.driverCode dialect code column))
  | some name =>
    match SqlType.ofDeclaredName? name with
    | some t => return t
    | none => SqlType.coerce (.text name) column

/-- The type of a column, given its dialect, the driver's code, its name, the name of its table and the
name of its declared type. An override that counts as false is none. -/
def resolveWith (overrides : Overrides) (dialect : Dialect) (code : Cell)
    (column table typeName : Option String) : Except Error SqlType := do
  match (← overrides.lookup dialect.name table column).filter Cell.truth with
  | some type => SqlType.coerce type column
  | none => resolveDriver dialect code column typeName

namespace Session

def dialect (name : String) : Session Dialect :=
  match Dialect.ofName? name with
  | some d => return d
  | none => throw (.value .dialect)

/-- The type of a column under the shared overrides (`resolve_sql_type`). -/
def resolve (dialectName : String) (code : Cell) (column table typeName : Option String) :
    Session SqlType := do
  let d ← dialect dialectName
  ofExcept (resolveWith (← consult) d code column table typeName)

end Session

end TypedRows
