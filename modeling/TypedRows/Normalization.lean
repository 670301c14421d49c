import TypedRows.Calendar.IsoReader
import TypedRows.LargeObject.Reading
/-!
# Normalization of cells

Drivers return the values of one SQL type in many forms. `Cell.normalize` (`normalize_value`) brings a cell
to the form in which a record holds the values of the type: numbers with a fraction as doubles, dates and
times as epoch milliseconds (`to_epoch_millis`), large objects in full. A cell in a form that the type does
not have is left as it is, for the record to refuse.
-/

namespace TypedRows

namespace Cell

/-- A date, a time or an instant as a count of milliseconds: since the start of 1970, and for a time
since midnight. Other cells are left as they are. -/
def temporalMillis (cell : Cell) : Except Error Cell :=
  match cell with
  | .date d => .ok (.int (DateTime.ofDate d).epochMillis)
  | .time t offset => .ok (.int (t.millis offset))
  | .datetime d none => .ok (.int d.epochMillis)
  | .datetime d (some offset) =>
    match d.toUniversal? offset with
    | some instant => .ok (.int instant.epochMillis)
    | none => failOverflow .calendar
  | _ => .ok cell

/-- The time or the instant that a text writes, for a column of a type (`_parse_temporal_text`). Text in no
known form is left as it is. -/
def readTemporal (type : SqlType) (written : String) (cell : Cell) : Except Error Cell :=
  let answer : Except IsoReader.Refusal Cell :=
    if type = .time then (IsoReader.readTime written).map fun t => .time t.1 t.2
    else (IsoReader.readDateTime written).map fun d => .datetime d.1 d.2
  match answer with
  | .ok value => .ok value
  | .error .malformed => .ok cell
  | .error .outOfRange => failOverflow .calendar

/-- A cell of a column of dates, times or instants as a count of milliseconds (`to_epoch_millis`). Text is read
first. -/
def toEpochMillis (type : SqlType) (cell : Cell) : Except Error Cell := do
  match cell.asText? with
  | some written => (← readTemporal type written cell).temporalMillis
  | none => cell.temporalMillis

/-- A number as a double. Truth values and cells that are no numbers are left as they are. -/
def normalizeNumber (cell : Cell) : Except Error Cell :=
  match cell with
  | .int _ | .sqlType _ | .float _ | .complex .. | .decimal _ | .fraction _ => cell.toDouble.map .float
  | _ => .ok cell

def normalizeBool (cell : Cell) : Cell :=
  match cell with
  | .int _ | .sqlType _ => .bool cell.truth
  | _ => cell

/-- A buffer as one that cannot be changed. -/
def normalizeBuffer (cell : Cell) : Cell :=
  match cell with
  | .bytes _ data => .bytes .frozen data
  | _ => cell

/-- An unboxed cell other than null in the form of the type. -/
def normalizePlain (type : SqlType) (cell : Cell) : Traced Error Cell :=
  match type with
  | .numeric | .decimal | .real | .float | .double => Traced.ofExcept cell.normalizeNumber
  | .date | .time | .timestamp => Traced.ofExcept (cell.toEpochMillis type)
  | .blob => cell.readBinary
  | .clob | .nclob => cell.readCharacter
  | .bit | .boolean => return cell.normalizeBool
  | .binary | .varbinary | .longvarbinary => return cell.normalizeBuffer
  | _ => return cell

/-- The cell in the form in which a record holds the values of the type (`normalize_value`). -/
def normalize (type : SqlType) (cell : Cell) : Traced Error Cell :=
  if cell.unboxed.isNull then return .null else cell.unboxed.normalizePlain type

end Cell

end TypedRows
