import TypedRows.Record
import TypedRows.Schema.Construction
/-!
# Building records step by step

A `RecordBuilder` collects values by name. A later value of a field replaces an earlier one, and a field
that was never set counts as null. Values are checked only when the record is built, so a builder can be
corrected and used again.
-/

namespace TypedRows

structure RecordBuilder where
  schema : Schema
  given : List (String × Cell)

namespace RecordBuilder

/-- A builder without values. -/
def ofSchema (schema : Schema) : RecordBuilder := ⟨schema, []⟩

/-- The builder with a field set to a value. -/
def set (b : RecordBuilder) (name : String) (value : Cell) : Except Error RecordBuilder := do
  let _ ← b.schema.index name
  return { b with given := Entries.set b.given name value }

def valueOf (b : RecordBuilder) (name : String) : Cell := (Entries.get? b.given name).getD .null

/-- The record with the values collected so far (`build`). -/
def build (b : RecordBuilder) : Except Error Record :=
  Record.ofEntries b.schema (b.schema.names.map fun name => (name, b.valueOf name))

end RecordBuilder

end TypedRows
