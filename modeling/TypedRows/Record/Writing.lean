import TypedRows.ColumnTypes
import TypedRows.Record
import TypedRows.Statement.FieldBinding
/-!
# Writing records to statements

`Statement.write` (`write`) binds the values of a record at the positions from 1 on. What was bound before a
failure stays bound.
-/

namespace TypedRows

/-- The fields of a record with the native types of their columns and their values. -/
def Record.columns (r : Record) (types : ColumnTypes) : List (Field × SqlType × Cell) :=
  r.schema.fields.zip (types.types.zip r.values)

namespace Statement

/-- Binds values one after another from a position on, up to the first failure. -/
def bindAll (s : Statement) (position : Nat) :
    List (Field × SqlType × Cell) → Statement × Except Error Unit
  | [] => (s, .ok ())
  | (f, type, value) :: rest =>
    match s.bindField position f type value with
    | .ok next => next.bindAll (position + 1) rest
    | .error e => (s, .error e)

/-- Binds a record of a schema, given the native types of the columns (`write`). -/
def write (s : Statement) (r : Record) (schema : Schema) (given : ColumnTypes.Given) :
    Statement × Except Error Unit :=
  match ColumnTypes.ofGiven schema given with
  | .error e => (s, .error e)
  | .ok types =>
    if r.schema = schema then s.bindAll 1 (r.columns types)
    else (s, failMismatch (.otherSchema r.schema schema))

end Statement

/-- Two values of a field are the same after the field was bound and read back. The undefined number of
eight bytes is passed on as it is; that of four bytes is computed anew and is not alike itself. -/
def Field.restored (f : Field) (value value' : Cell) : Bool :=
  match f.kind, value, value' with
  | .float64, .float .nan, .float .nan => true
  | _, value, value' => value.alike value' matches .ok true

/-- The record that was read back is the one that was written. -/
def Record.restored (written read : Record) : Bool :=
  written.schema == read.schema &&
    ((written.schema.fields.zip (written.values.zip read.values)).all fun part =>
      part.1.restored part.2.1 part.2.2)

end TypedRows
