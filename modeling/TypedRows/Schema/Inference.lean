import TypedRows.Column.Description
import TypedRows.Schema.Construction
/-!
# Schemas of results

The schema of a result (`infer_schema`) has one field for each column, in the same order: the name of the
column, the kind of its type (`kind_for_sql_type`) and its flag for nulls.
-/

namespace TypedRows

def Kind.ofSqlType (type : SqlType) (column : Option String) : Except Error Kind :=
  match Kind.ofSqlType? type with
  | some kind => .ok kind
  | none => .error (.unsupported (.sqlType type column))

def Field.ofColumn (c : Column) : Except Error Field := do
  let kind ← Kind.ofSqlType c.sqlType c.name
  Field.ofParts (c.name.getD "") kind c.isNullable

/-- The schema for columns (`infer_schema`). -/
def Schema.ofColumns (name : String) (columns : List Column) : Except Error Schema := do
  Schema.ofFields name (← columns.mapM Field.ofColumn)

/-- The name of the schema of a result, unless another is given. -/
def defaultRecordName : String := "dbRecord"

end TypedRows
