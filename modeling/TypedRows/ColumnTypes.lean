import TypedRows.Cell.Conversion
import TypedRows.Schema.Construction
import TypedRows.Slice
import TypedRows.SqlType.Coercion
/-!
# Column types

`ColumnTypes` (`ColumnTypeTable`) lists the native types of the columns of a table with their names, in the
order of the columns. It goes with a schema if the names are the same in the same order (`validate`).

Callers may give column types in other forms: as descriptions of columns (`from_columns`), or as a sequence
of codes that go with the fields by position (`for_schema`). `ofGiven` (`_as_column_types`) reads all of them
and validates the result; `defaults` (`_default_column_types`) stands in if none are given.
-/

namespace TypedRows

structure ColumnTypes where
  entries : List (Option String × SqlType)
deriving DecidableEq, Repr

namespace ColumnTypes

def names (t : ColumnTypes) : List (Option String) := t.entries.map (·.1)

def types (t : ColumnTypes) : List SqlType := t.entries.map (·.2)

def size (t : ColumnTypes) : Nat := t.entries.length

/-- The types given by names with type codes. -/
def ofPairs (pairs : List (Option String × Cell)) : Except Error ColumnTypes := do
  let entries ← pairs.mapM fun pair => do return (pair.1, ← SqlType.coerce pair.2 pair.1)
  return ⟨entries⟩

/-- The types that descriptions of columns give. -/
def ofColumns (columns : List Column) : ColumnTypes := ⟨columns.map fun c => (c.name, c.sqlType)⟩

/-- The types given by a sequence of type codes, which go with the fields by position. -/
def forSchema (schema : Schema) (codes : Cell) : Except Error ColumnTypes := do
  let count ← codes.length
  if count ≠ schema.size then
    throw (.mismatch (.typeCount schema.name schema.size count))
  ofPairs ((schema.names.map some).zip (← codes.items))

/-- The first entry whose name is not that of the field at its position, with the position counted
from the given one. -/
def firstOther? (position : Nat) :
    List Field → List (Option String × SqlType) → Option (Nat × Option String × String)
  | f :: fields, entry :: entries =>
    if entry.1 = some f.name then firstOther? (position + 1) fields entries
    else some (position, entry.1, f.name)
  | _, _ => none

/-- The names are those of the fields of the schema, in the same order (`validate`). -/
def validate (t : ColumnTypes) (schema : Schema) : Except Error Unit :=
  if t.size ≠ schema.size then
    failMismatch (.tableSize schema.name schema.size t.size)
  else
    match firstOther? 0 schema.fields t.entries with
    | some (position, entry, field) => failMismatch (.tableName position entry field)
    | none => .ok ()

/-- The types assumed when nothing is known of the columns but the kinds of the fields. -/
def defaults (schema : Schema) : ColumnTypes :=
  ⟨schema.fields.map fun f => (some f.name, f.kind.defaultSqlType)⟩

/-! ## As a sequence of types -/

/-- The type at a position; negative positions count from the end. -/
def get (t : ColumnTypes) (position : Int) : Except Error SqlType :=
  let i := SliceBounds.fromEnd t.size position
  match if i < 0 then none else t.types[i.toNat]? with
  | some type => .ok type
  | none => .error (.position .entry)

def slice (t : ColumnTypes) (bounds : SliceBounds) : Except Error (List SqlType) :=
  if bounds.step = some 0 then failValue .sliceStep else .ok (bounds.of t.types)

/-- For each type whether it is alike the code. -/
def comparisons (t : ColumnTypes) (code : Cell) : Except Error (List Bool) :=
  t.types.mapM fun type => (Cell.sqlType type).alike code

def contains (t : ColumnTypes) (code : Cell) : Except Error Bool := return (← t.comparisons code).any id

def index (t : ColumnTypes) (code : Cell) : Except Error Nat := do
  match (← t.comparisons code).findIdx? id with
  | some i => return i
  | none => failValue .absent

def count (t : ColumnTypes) (code : Cell) : Except Error Nat := return (← t.comparisons code).count true

def literal (t : ColumnTypes) : String :=
  "ColumnTypeTable(" ++ bracketed "[" "]" (t.entries.map fun entry =>
    "(" ++ Text.quotedOrNone entry.1 ++ ", " ++ entry.2.name ++ ")") ++ ")"

/-! ## Other forms -/

/-- Column types as a caller gives them. -/
inductive Given where
  | table (t : ColumnTypes)
  /-- Descriptions of columns, or type codes. -/
  | value (cell : Cell)

/-- The name and type of one of several descriptions of columns. -/
def entryOf (cell : Cell) : Except Error (Option String × SqlType) :=
  match cell with
  | .column c => .ok (c.name, c.sqlType)
  | .sqlType _ => .error (.attribute cell.fullTypeName "sql_type")
  | _ => .error (.attribute cell.fullTypeName "name")

/-- The first item of a value that is not empty; of a map the value of the key zero. -/
def firstItem? (cell : Cell) : Except Error (Option Cell) :=
  if !cell.truth then .ok none
  else
    match cell.relaxed with
    | .map entries =>
      match Entries.get? entries (Cell.int 0) with
      | some value => .ok (some value)
      | none => .error (.key (.int 0))
    | .text _ | .bytes .. | .list _ | .tuple _ => cell.items.map List.head?
    | _ => failType (.notIndexed cell.fullTypeName)

/-- The column types in any form, before they are validated. If the first item is the description of a
column, all must be. -/
def read (schema : Schema) : Given → Except Error ColumnTypes
  | .table t => .ok t
  | .value cell => do
    match ← firstItem? cell with
    | some (.column _) => return ⟨← (← cell.items).mapM entryOf⟩
    | _ => forSchema schema cell

/-- The column types in any form, for use with a schema (`_as_column_types`). -/
def ofGiven (schema : Schema) (given : Given) : Except Error ColumnTypes := do
  let t ← read schema given
  t.validate schema
  return t

end ColumnTypes

end TypedRows
