import TypedRows.Record
import TypedRows.Schema.Construction
import TypedRows.Text.Listing
/-!
# Frames

A `Frame` holds records by column (`records_to_dataframe`, and back `dataframe_to_records`): each column has a cell for each record, which is missing where the
record has a null. The columns of the kinds without parts are stored in arrays of one type, and storing
is not always faithful: an undefined number is stored as a missing cell, a number of four bytes is
rounded, and integers of which some are missing are stored by way of doubles.
-/

namespace TypedRows

/-- The name of the type in which a column of the kind is stored; other columns hold cells of any type. -/
def Kind.storage? : Kind → Option String
  | .boolean => some "boolean"
  | .int32 => some "Int32"
  | .int64 => some "Int64"
  | .float32 => some "Float32"
  | .float64 => some "Float64"
  | .string => some "string"
  | .bytes => some "object"
  | .null | .array | .map | .record | .union => none

structure FrameColumn where
  name : String
  /-- A cell for each record, or nothing where it is missing. -/
  cells : List (Option Cell)

structure Frame where
  columns : List FrameColumn

/-! ## Storing -/

/-- A number, or nothing if it is undefined. -/
def definedNumber (x : Double) : Option Cell := if x.isNaN then none else some (.float x)

/-- An integer that was stored as a double in between. -/
def integerThroughDouble (cell : Cell) : Except Error Cell :=
  match cell.asInt? with
  | none => .ok cell
  | some i =>
    match (Binary.ofInt i : Double).truncate? with
    | some stored =>
      if inRange Kind.int64Range stored then .ok (.int stored) else failType .lossyInteger
    | none => failType .lossyInteger

/-- An integer as it is stored. -/
def storedInteger (cell : Cell) : Cell :=
  match cell.asInt? with
  | some i => .int i
  | none => cell

/-- The integers of a column as they are stored. -/
def storeIntegers (cells : List Cell) : Except Error (List (Option Cell)) :=
  if cells.any Cell.isNull then
    cells.mapM fun cell =>
      if cell.isNull then .ok none else (integerThroughDouble cell).map some
  else .ok (cells.map fun cell => some (storedInteger cell))

/-- A cell of a column that is not of integers as it is stored. -/
def storeCell (kind : Kind) (cell : Cell) : Option Cell :=
  match kind, cell with
  | _, .null => none
  | .float32, .float x => definedNumber x.narrow
  | .float64, .float x => definedNumber x
  | _, cell => some cell

/-- The cell is a number that an array of doubles or of integers of eight bytes can hold. -/
def isPlainNumber (cell : Cell) : Bool :=
  match cell, cell.asInt? with
  | _, some i => inRange (-9223372036854775808, 18446744073709551615) i
  | .float _, none => true
  | _, none => false

def asDouble (cell : Cell) : Cell :=
  match cell.asInt? with
  | some i => .float (Binary.ofInt i)
  | none => cell

/-- The cells of a column of any types. If all are numbers, the column is stored in integers or, unless
all are integers, in doubles. -/
def storeMixed (cells : List Cell) : List (Option Cell) :=
  let stored :=
    if !((cells.filter fun cell => !cell.isNull).all isPlainNumber) then cells
    else if cells.all fun cell => cell.asInt?.isSome then cells.map storedInteger
    else cells.map asDouble
  stored.map (storeCell .float64)

def storeCells (kind : Kind) (cells : List Cell) : Except Error (List (Option Cell)) :=
  match kind with
  | .int32 | .int64 => storeIntegers cells
  | .union => .ok (storeMixed cells)
  | kind => .ok (cells.map (storeCell kind))

namespace Frame

/-- The column of a field. -/
def columnOf (records : List Record) (f : Field) : Except Error FrameColumn := do
  let cells ← records.mapM fun r => r.get f.name
  return ⟨f.name, ← storeCells f.kind cells⟩

/-- The frame of records of a schema (`records_to_dataframe`). -/
def ofRecords (schema : Schema) (records : List Record) : Except Error Frame := do
  return ⟨← schema.fields.mapM (columnOf records)⟩

/-- The number of records. A frame without columns has none. -/
def length (f : Frame) : Nat := (f.columns.head?.map fun column => column.cells.length).getD 0

/-! ## Taking records out -/

def column? (f : Frame) (name : String) : Option FrameColumn :=
  f.columns.find? fun column => column.name == name

/-- What is said of names that are no columns: some of those that are looked for, or all of them. -/
def missingText (wanted missing : List String) : String :=
  if missing.length = wanted.length then
    "None of [" ++ Text.nameListing missing ++ "] are in the [columns]"
  else bracketed "[" "]" (missing.map Text.quoted) ++ " not in index"

/-- The columns with the names of the fields. -/
def select (f : Frame) (schema : Schema) : Except Error (List FrameColumn) :=
  match schema.names.filter fun name => (f.column? name).isNone with
  | [] => .ok (schema.names.filterMap f.column?)
  | missing => .error (.key (.text (missingText schema.names missing)))

/-- The value of a cell in a record: nothing is stored for a null, and an undefined number or instant
counts as a null. A signaling decimal cannot be told from a defined number. -/
def valueOf (cell : Option Cell) : Except Error Cell :=
  match cell with
  | none => .ok .null
  | some (.float .nan) | some (.complex .nan _) | some (.complex _ .nan) => .ok .null
  | some (.decimal (.undefined _ true _)) => .error .undefinedComparison
  | some (.decimal (.undefined ..)) => .ok .null
  | some (.boxed (.float _ .nan)) | some (.boxed (.instant _ none)) => .ok .null
  | some cell => .ok cell

/-- The rows of columns of the same length. -/
def rows (columns : List (List (Option Cell))) : List (List (Option Cell)) :=
  match columns with
  | [] => []
  | first :: _ => (List.range first.length).map fun i => columns.map fun cells => cells[i]?.join

/-- The records of a schema that a frame holds (`dataframe_to_records`). Columns that are no fields are passed
over. -/
def toRecords (f : Frame) (schema : Schema) : Except Error (List Record) := do
  let columns ← f.select schema
  (rows (columns.map FrameColumn.cells)).mapM fun row => do
    Record.ofEntries schema (schema.names.zip (← row.mapM valueOf))

end Frame

end TypedRows
