import TypedRows.Cell.Conversion
import TypedRows.Kind
/-!
# Which cells a kind accepts

`Kind.accepts` tells which cells other than null a field of the kind can hold, and `Kind.canonical`
(`_canonical`) gives the form in which it holds them: doubles for the floating point kinds and a buffer that cannot be
changed for bytes.
-/

namespace TypedRows

def inRange (range : Int × Int) (i : Int) : Bool := range.1 ≤ i && i ≤ range.2

namespace Kind

/-- A cell can stand for a value of the kind (`accepts`). -/
def accepts (kind : Kind) (cell : Cell) : Bool :=
  let cell := cell.relaxed
  match kind, cell with
  | .null, .null => true
  | .boolean, .bool _ => true
  | .int32, cell => cell.asInt?.any (inRange int32Range)
  | .int64, cell => cell.asInt?.any (inRange int64Range)
  | .float32, .float _ | .float64, .float _ => true
  | .float32, cell | .float64, cell => cell.asInt?.isSome
  | .string, .text _ => true
  | .bytes, .bytes .. => true
  | .array, .list _ | .array, .tuple _ => true
  | .map, .map _ | .record, .map _ => true
  | .union, _ => true
  | _, _ => false

/-- An accepted cell in the form in which a field holds it (`_canonical`). -/
def canonical (kind : Kind) (cell : Cell) : Except Error Cell :=
  match kind with
  | .float32 | .float64 => cell.toDouble.map .float
  | .bytes => cell.toBytes.map (.bytes .frozen)
  | _ => .ok cell

end Kind

end TypedRows
