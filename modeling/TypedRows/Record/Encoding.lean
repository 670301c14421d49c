import TypedRows.ByteStream
import TypedRows.Number.ByteOrder
import TypedRows.Record
/-!
# Records as bytes

`Record.dump` (`dump_record`) writes the values of a record to a stream in the order of the fields, numbers with the
highest byte first and a text behind its length. Nulls leave no trace, so the bytes can be read again only by someone
who knows which values were null and how long the buffers were. A dump stops at the first field that cannot be
written; what was written before stays.

How a text becomes bytes is a parameter of a dump. It is UTF-8 unless something else is given, and every text here
has bytes in UTF-8; a dump is defined for encoders as well that refuse some texts.
-/

namespace TypedRows

/-- How texts become bytes. -/
abbrev TextEncoder := String → Except Error Bytes

def utf8Bytes (s : String) : Bytes := s.toUTF8.toList

def utf8 : TextEncoder := fun s => .ok (utf8Bytes s)

/-- A number in four bytes. A number that is too large for them is refused. -/
def singleBytes (x : Double) : Except Error Bytes :=
  let narrow : Single := x.round .single
  if narrow.isInfinite && !x.isInfinite then failOverflow .single
  else .ok (bigEndian 4 narrow.toBits)

/-- The bytes of a value of a kind whose values all take the same count of bytes. -/
def packedBytes (kind : Kind) (value : Cell) : Except Error Bytes :=
  match kind, value with
  | .boolean, .bool b => .ok [if b then 1 else 0]
  | .int32, cell => .ok (bigEndianInt 4 (cell.asInt?.getD 0))
  | .int64, cell => .ok (bigEndianInt 8 (cell.asInt?.getD 0))
  | .float32, .float x => singleBytes x
  | .float64, .float x => .ok (bigEndian 8 x.toBits)
  | _, _ => .ok []

/-! ## Writing to a stream -/

/-- A computation that writes to a stream. What it has written stays written if it fails. -/
abbrev Dumping := ExceptT Error (StateM ByteStream)

namespace Dumping

def write (data : Bytes) : Dumping Unit := modify fun stream => stream.write data

/-- What a stream is afterwards, and the outcome. -/
def runOn (d : Dumping Unit) (stream : ByteStream) : ByteStream × Except Error Unit :=
  (StateT.run (m := Id) (ExceptT.run d) stream).swap

end Dumping

/-- Writes a text behind the count of its bytes. -/
def dumpText (field s : String) (encoder : TextEncoder) : Dumping Unit := do
  let data ← (encoder s : Except Error Bytes)
  if maxStringBytes < data.length then throw (.range (.stringLength field data.length))
  Dumping.write (bigEndian 2 data.length)
  Dumping.write data

/-- Writes the value of a field. -/
def Field.dump (f : Field) (value : Cell) (encoder : TextEncoder := utf8) : Dumping Unit :=
  if !f.kind.isScalar then value.refuse (.unsupported (.composite f.name f.kind value))
  else if value.isNull || f.kind == .null then return ()
  else
    match f.kind, value with
    | .string, .text s => dumpText f.name s encoder
    | .bytes, .bytes _ data => Dumping.write data
    | kind, value => do Dumping.write (← packedBytes kind value)

def dumpFields (encoder : TextEncoder) : List (Field × Cell) → Dumping Unit
  | [] => return ()
  | (f, value) :: rest => do
    f.dump value encoder
    dumpFields encoder rest

/-- Writes a record at the position of a stream (`dump_record`). -/
def Record.dump (r : Record) (stream : ByteStream) (encoder : TextEncoder := utf8) : ByteStream × Except Error Unit :=
  (dumpFields encoder (r.schema.fields.zip r.values)).runOn stream

/-- The bytes of a record (`dumps_record`). -/
def Record.toBytes (r : Record) (encoder : TextEncoder := utf8) : Except Error Bytes :=
  match r.dump .empty encoder with
  | (stream, .ok ()) => .ok stream.content
  | (_, .error e) => .error e

end TypedRows
