import TypedRows.Dialect.Resolution
import TypedRows.Schema.Inference
/-!
# Options

The options under which the rows of a cursor are read (`CodecOptions`). Making them checks the dialect and merges an
override file, if one is given, into the shared overrides.
-/

namespace TypedRows

/-- How the rows of a cursor are read. -/
structure Options where
  /-- The dialect of the driver. -/
  dialect : String := Dialect.postgresql.name
  /-- The name of the schema that is inferred. -/
  recordName : String := defaultRecordName
  /-- The table whose overrides apply. -/
  tableName : Option String := none
deriving DecidableEq, Repr, Inhabited

namespace Session

/-- Options with an override file, which may be missing (`CodecOptions`). -/
def options (given : Options) (file : Option (Option Bytes)) : Session Options := do
  let _ ← dialect given.dialect
  if let some content := file then load content
  return given

end Session

end TypedRows
