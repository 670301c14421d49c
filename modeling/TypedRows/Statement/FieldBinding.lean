import TypedRows.Cell.Duration
import TypedRows.Schema.Construction
import TypedRows.Statement
/-!
# Binding fields

The value of a field is bound (`bind_field`) by the setter that fits both the kind of the field and the native
type of its column: the kinds do not tell a narrow integer column from a wide one, nor an instant from an
integer. A null is bound with the type of the column.
-/

namespace TypedRows

/-- The instant of a count of epoch milliseconds (`from_epoch_millis`). -/
def DateTime.ofEpochMillis (millis : Cell) : Except Error DateTime := do
  match (← millis.toMicros).bind DateTime.ofEpochMicros? with
  | some instant => return instant
  | none => RangeFault.refuse (.epochMillis millis)

/-- A setter with the value that is given to it. -/
structure Assignment where
  setter : Setter
  value : Cell

namespace Assignment

def ofNull (type : SqlType) : Assignment := ⟨.null, .sqlType type⟩

/-- An integer of 32 bits. A column of a narrow type has a range of its own, which its name goes with. -/
def ofInt32 (type : SqlType) (value : Cell) : Except Error Assignment :=
  match type.narrowRange? with
  | some range => do
    return ⟨.short, ← checkBetween (.int range.1) (.int range.2) type.name value⟩
  | none => .ok ⟨.int, value⟩

/-- An integer of 64 bits. For a column of dates, times or instants it counts epoch milliseconds. -/
def ofInt64 (type : SqlType) (value : Cell) : Except Error Assignment :=
  match type with
  | .date => do return ⟨.date, .date (← DateTime.ofEpochMillis value).date⟩
  | .time => do return ⟨.time, .time (← DateTime.ofEpochMillis value).time none⟩
  | .timestamp => do return ⟨.timestamp, .datetime (← DateTime.ofEpochMillis value) none⟩
  | _ => .ok ⟨.long, value⟩

/-- Bytes. A large object column takes a large object. -/
def ofBytes (type : SqlType) (value : Cell) : Except Error Assignment :=
  match type with
  | .blob => do return ⟨.blob, .blob ⟨← value.toBytes, false⟩⟩
  | _ => .ok ⟨.bytes, value⟩

/-- A value other than null of a field of a kind without parts. -/
def ofValue (kind : Kind) (type : SqlType) (value : Cell) : Except Error Assignment :=
  match kind with
  | .string => .ok ⟨.string, value⟩
  | .boolean => .ok ⟨.boolean, value⟩
  | .int32 => ofInt32 type value
  | .int64 => ofInt64 type value
  | .float32 => .ok ⟨.float, value⟩
  | .float64 => .ok ⟨.double, value⟩
  | .bytes => ofBytes type value
  | .null | .array | .map | .record | .union => .ok (ofNull type)

end Assignment

/-- How the value of a field is bound to a column of a type. -/
def Field.assignment (f : Field) (type : SqlType) (value : Cell) : Except Error Assignment := do
  let kind ← f.scalarKind
  if value.isNull then return .ofNull type else Assignment.ofValue kind type value

/-- The statement with the value of a field bound at a position (`bind_field`). -/
def Statement.bindField (s : Statement) (position : Int) (f : Field) (type : SqlType) (value : Cell) :
    Except Error Statement := do
  let assignment ← f.assignment type value
  s.set assignment.setter position assignment.value

end TypedRows
