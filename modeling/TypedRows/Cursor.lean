import TypedRows.Options
import TypedRows.Record.Reading
/-!
# Cursors

A `Cursor` describes the columns of a result and gives its rows one by one; a null stands for the end of
the result. `Cursor.readNext` (`read_cursor`) decodes the next row and settles the schema each time anew, unless it is
given; `Cursor.readAll` (`iter_records`) is a generator that settles it once and decodes all rows up to the end or the
first failure.
-/

namespace TypedRows

structure Cursor where
  description : Option (List (List Cell))
  rows : List Cell

/-- The schema and the column types with which the rows of a result are read. -/
structure Plan where
  schema : Schema
  types : ColumnTypes.Given

namespace Session

/-- The schema of a result with its columns (`infer_schema_from_cursor`). -/
def inferred (options : Options) (typeNames : Option (List (Option String)))
    (description : Option (List (List Cell))) : Session (Schema × List Column) := do
  let found ← columns options.dialect options.tableName typeNames description
  return (← ofExcept (Schema.ofColumns options.recordName found), found)

/-- The schema and the columns of a result, which are inferred as far as they are not given. -/
def settle (options : Options) (schema : Option Schema) (given : Option (List Column))
    (typeNames : Option (List (Option String))) (description : Option (List (List Cell))) :
    Session (Schema × List Column) := do
  match given, schema with
  | none, schema => do
    let (inferredSchema, found) ← inferred options typeNames description
    return (schema.getD inferredSchema, found)
  | some given, some schema => return (schema, given)
  | some given, none => return (← ofExcept (Schema.ofColumns options.recordName given), given)

end Session

def ColumnTypes.Given.ofColumns (columns : List Column) : ColumnTypes.Given :=
  .value (.list (columns.map Cell.column))

namespace Cursor

/-- Decodes the next row. At the end of the result there is no record. -/
def fetch (c : Cursor) (plan : Plan) : Cursor × Traced Error (Option Record) :=
  match c.rows with
  | [] => (c, return none)
  | row :: rest =>
    ({ c with rows := rest },
      if row.isNull then return none
      else return some (← Record.ofRow plan.schema (some plan.types) row))

/-- Settles the schema and decodes the next row (`read_cursor`). -/
def readNext (c : Cursor) (options : Options) (schema : Option Schema) (given : Option (List Column))
    (typeNames : Option (List (Option String))) :
    StateM Environment (Cursor × Traced Error (Option Record)) := do
  match ← (Session.settle options schema given typeNames c.description).run with
  | .error e => return (c, throw e)
  | .ok (schema, columns) => return c.fetch ⟨schema, .ofColumns columns⟩

/-- What decoding many rows gives: the records, the rows that were not fetched, and how it ended. -/
structure Drained where
  records : List Record
  rest : List Cell
  ending : Traced Error Unit

def Drained.cons (calls : List HandleCall) (r : Record) (d : Drained) : Drained :=
  ⟨r :: d.records, d.rest, ⟨calls ++ d.ending.calls, d.ending.outcome⟩⟩

/-- Decodes rows up to the end of the result or the first failure. -/
def drain (plan : Plan) : List Cell → Drained
  | [] => ⟨[], [], return⟩
  | row :: rest =>
    if row.isNull then ⟨[], rest, return⟩
    else
      match Record.ofRow plan.schema (some plan.types) row with
      | ⟨calls, .error e⟩ => ⟨[], rest, ⟨calls, .error e⟩⟩
      | ⟨calls, .ok r⟩ => (drain plan rest).cons calls r

/-- What decoding many rows gives outside the generator in which they are decoded. -/
def Drained.leavingGenerator (d : Drained) : Drained := { d with ending := d.ending.mapError Error.leavingGenerator }

/-- Settles the schema and decodes all rows (`iter_records`). -/
def readAll (c : Cursor) (options : Options) (given : Option (List Column))
    (typeNames : Option (List (Option String))) : StateM Environment Drained := do
  match ← (Session.settle options none given typeNames c.description).run with
  | .error e => return Drained.leavingGenerator ⟨[], c.rows, throw e⟩
  | .ok (schema, columns) => return (drain ⟨schema, .table (.ofColumns columns)⟩ c.rows).leavingGenerator

end Cursor

end TypedRows
