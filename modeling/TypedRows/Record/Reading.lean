import TypedRows.ColumnTypes
import TypedRows.Normalization
import TypedRows.Record
/-!
# Reading rows

`Record.ofRow` (`read`) makes a record of one row of a result. The column types and the shape of the row
(`_row_values`) are checked first, so a row that does not fit the schema touches no handle; then the values
are normalized in the order of the fields, and at last the record checks them.
-/

namespace TypedRows

namespace ColumnTypes

/-- The column types to read with: those that are given, or those that the kinds of the fields suggest. -/
def forReading (schema : Schema) : Option Given → Except Error ColumnTypes
  | none => .ok (defaults schema)
  | some given => ofGiven schema given

end ColumnTypes

/-- The values of a map under the names of the fields. -/
def mapValues (schema : Schema) (entries : List (Cell × Cell)) : Except Error (List Cell) :=
  schema.names.mapM fun name =>
    match Entries.get? entries (Cell.text name) with
    | some value => .ok value
    | none => failMismatch (.rowColumn name schema.name)

/-- What a row object answers if it lacks a column. -/
def keyedRefusal : String := "No item with that key"

/-- The value of a row object under a name, which is that of the first column that is found under it. -/
def keyedValue? (names : NameMatch) (entries : List (String × Cell)) (name : String) : Option Cell :=
  (entries.find? fun entry => names.holds entry.1 name).map Prod.snd

def keyedValues (schema : Schema) (names : NameMatch) (entries : List (String × Cell)) : Except Error (List Cell) :=
  schema.names.mapM fun name =>
    match keyedValue? names entries name with
    | some value => .ok value
    | none => failMismatch (.rowColumn keyedRefusal schema.name)

/-- The values of a sequence, one for each field. -/
def positionalValues (schema : Schema) (row : Cell) : Except Error (List Cell) := do
  let count ← row.length
  if count = schema.size then row.items
  else failMismatch (.rowSize count schema.name schema.size)

/-- The values of a row in the order of the fields (`_row_values`). A row that has names is read by name, any other
row by position. -/
def rowValues (schema : Schema) (row : Cell) : Except Error (List Cell) :=
  match row with
  | .map entries => mapValues schema entries
  | .keyed names entries => keyedValues schema names entries
  | row => positionalValues schema row

/-- The cells of a row, each normalized for the type of its column. -/
def normalizeAll : List SqlType → List Cell → Traced Error (List Cell)
  | type :: types, cell :: cells => do
    let value ← cell.normalize type
    return value :: (← normalizeAll types cells)
  | _, _ => return []

/-- The record that a row holds (`read`). -/
def Record.ofRow (schema : Schema) (given : Option ColumnTypes.Given) (row : Cell) :
    Traced Error Record := do
  let types ← (ColumnTypes.forReading schema given : Except Error ColumnTypes)
  let cells ← (rowValues schema row : Except Error (List Cell))
  let values ← normalizeAll types.types cells
  (Record.ofEntries schema (schema.names.zip values) : Except Error Record)

end TypedRows
