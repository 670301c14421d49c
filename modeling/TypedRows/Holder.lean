import TypedRows.Record.Encoding
import TypedRows.Record.Reading
import TypedRows.Record.Writing
/-!
# Holders

A `Holder` (`DBRecord`) keeps the record that was read last together with the column types that are needed
to write it. Reading (`read_fields`) replaces the one after the other, so that a failure between the two
would tear them apart.
-/

namespace TypedRows

structure Holder where
  record : Option Record
  types : Option ColumnTypes

namespace Holder

def empty : Holder := ⟨none, none⟩

/-- A holder of a record, with column types that must go with it. Without a record there are no types. -/
def ofParts (record : Option Record) (given : Option ColumnTypes.Given) : Except Error Holder :=
  match record, given with
  | some r, some given => do return ⟨some r, some (← ColumnTypes.ofGiven r.schema given)⟩
  | record, _ => .ok ⟨record, none⟩

/-- Replaces the record by the one that a row holds, and after that the column types by the given ones
(`read_fields`). -/
def readFields (h : Holder) (schema : Schema) (given : Option ColumnTypes.Given) (row : Cell) :
    Holder × Traced Error Record :=
  match Record.ofRow schema given row with
  | ⟨calls, .error e⟩ => (h, ⟨calls, .error e⟩)
  | ⟨calls, .ok r⟩ =>
    match given.mapM (ColumnTypes.ofGiven schema) with
    | .ok types => (⟨some r, types⟩, ⟨calls, .ok r⟩)
    -- The record has been replaced already.
    | .error e => ({ h with record := some r }, ⟨calls, .error e⟩)

/-- Binds the record to a statement. -/
def write (h : Holder) (s : Statement) : Statement × Except Error Unit :=
  match h.record, h.types with
  | some r, some types => s.write r r.schema (.table types)
  | _, _ => (s, failMismatch .incompleteHolder)

/-- Writes the record as bytes to a stream (`write_to`). -/
def dump (h : Holder) (stream : ByteStream) (encoder : TextEncoder := utf8) : ByteStream × Except Error Unit :=
  match h.record with
  | some r => r.dump stream encoder
  | none => (stream, failMismatch .emptyHolder)

def partLiteral {α : Type} (literal : α → String) : Option α → String
  | none => Cell.null.literal
  | some part => literal part

def literal (h : Holder) : String :=
  callText "DBRecord" [partLiteral Record.literal h.record, partLiteral ColumnTypes.literal h.types]

end Holder

end TypedRows
