import TypedRows.Dialect.Resolution
/-!
# Descriptions of columns

A driver describes each column of a result by up to seven values: the name, the type code, four sizes and
a flag for nulls.

| Definition | Function |
|---|---|
| `Column.ofItem` | `ColumnInfo.from_cursor_description`, a column of one item |
| `Session.columns` | `columns_from_cursor_description`, the columns of a whole result |
| `Session.declaredColumns` | `sqlite_declared_types`, of the rows in which a SQLite database describes a table |
-/

namespace TypedRows

namespace ColumnOf

def isNullable (c : Column) : Bool := c.nullable.truth

/-- Equality of columns: the same name, the same type and flags that are alike. -/
def alike (a b : Column) : Except Error Bool := (Cell.column a).alike (.column b)

/-- The value at a position of an item; values that an item leaves out are null. -/
def part (item : List Cell) (position : Nat) : Cell := (item[position]?).getD .null

def itemName (item : List Cell) : Option String := (part item 0).asText?

/-- The column that an item describes, with its resolved type. A column may hold nulls unless the item
says that it does not. -/
def ofItem (item : List Cell) (sqlType : SqlType) : Column where
  name := itemName item
  sqlType := sqlType
  nullable := if (part item 6).isNull then .bool true else .bool (part item 6).truth
  typeCode := part item 1
  displaySize := part item 2
  internalSize := part item 3
  precision := part item 4
  scale := part item 5

end ColumnOf

/-- The columns of a result, given the items and the declared type names, of which there is one for
each item if there are any. -/
def describeColumns (overrides : Overrides) (dialect : Dialect) (table : Option String) :
    List (List Cell × Option String) → Except Error (List Column)
  | [] => .ok []
  | (item, typeName) :: rest => do
    let sqlType ← resolveWith overrides dialect (ColumnOf.part item 1) (ColumnOf.itemName item) table
      typeName
    return .ofItem item sqlType :: (← describeColumns overrides dialect table rest)

/-- The items of a description, each with its declared type name. -/
def pairNames (items : List (List Cell)) :
    Option (List (Option String)) → Except Error (List (List Cell × Option String))
  | none => .ok (items.map fun item => (item, none))
  | some names =>
    if names.length ≠ items.length then failValue (.typeNameCount items.length names.length)
    else .ok (items.zip names)

namespace Session

/-- The columns of a result (`columns_from_cursor_description`). A result without a description has none. -/
def columns (dialectName : String) (table : Option String)
    (typeNames : Option (List (Option String))) (description : Option (List (List Cell))) :
    Session (List Column) := do
  match description with
  | none => return []
  | some items =>
    let pairs ← ofExcept (pairNames items typeNames)
    if pairs.isEmpty then return []
    let d ← dialect dialectName
    ofExcept (describeColumns (← consult) d table pairs)

end Session

/-! ## Declared columns -/

/-- The statement that asks for the description of a table. -/
def tableInfoStatement (table : String) : String := "PRAGMA table_info(\"" ++ table ++ "\")"

/-- What happens on the connection when a table is described: the statement is run and the cursor closed
again, also if the rows cannot be fetched. -/
def tableInfoCalls (table : String) : List String := [tableInfoStatement table, "close"]

/-- The name, the type and the flag against nulls in a row that describes a column. -/
def declaredParts (row : Cell) : Except Error (Cell × Cell × Cell) := do
  match row.items with
  | .ok [_, name, type, notNull, _, _] => return (name, type, notNull)
  | .ok items => if items.length < 6 then failValue (.rowShort items.length) else failValue .rowLong
  | .error _ => failType (.notUnpacked row.fullTypeName)

namespace Session

/-- The column that a row describes. -/
def declaredColumn (table : String) (row : Cell) : Session Column := do
  let (name, type, notNull) ← ofExcept (declaredParts row)
  let sqlType ← resolve Dialect.sqlite.name type name.asText? (some table) none
  return { name := name.asText?, sqlType, nullable := .bool (!notNull.truth), typeCode := type,
           displaySize := .null, internalSize := .null, precision := .null, scale := .null }

/-- The columns of a table, given the rows that describe them or the failure to fetch these
(`sqlite_declared_types`). -/
def declaredColumns (table : String) (rows : Except Fault (List Cell)) : Session (List Column) :=
  match rows with
  | .error fault => throw (.fault fault)
  | .ok rows => rows.mapM (declaredColumn table)

end Session

end TypedRows
