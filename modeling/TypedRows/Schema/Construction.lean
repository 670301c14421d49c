import TypedRows.Error
/-!
# Building and searching schemas

Fields and schemas built from parts, and look-up by name, with the failure for parts and names that do
not fit.
-/

namespace TypedRows

def failMismatch {α : Type} (e : Mismatch) : Except Error α := .error (.mismatch e)

namespace Field

/-- The field with a name, a kind and a flag; a field of kind null may always be null. -/
def ofParts (name : String) (kind : Kind) (nullable : Bool) : Except Error Field :=
  match ofParts? name kind nullable with
  | some f => .ok f
  | none => failMismatch .emptyFieldName

/-- The kind of a field whose values can be bound to a statement. -/
def scalarKind (f : Field) : Except Error Kind :=
  if f.kind.isScalar then .ok f.kind else failMismatch (.notScalar f.name f.kind)

end Field

namespace Schema

/-- The schema with a name and fields, whose names must differ. -/
def ofFields (name : String) (fields : List Field) : Except Error Schema :=
  match h : firstRepeated? [] (fields.map Field.name) with
  | some field => failMismatch (.repeatedField field name)
  | none => .ok ⟨name, fields, (nodup_of_firstRepeated? h).1⟩

def index (s : Schema) (name : String) : Except Error Nat :=
  match s.index? name with
  | some i => .ok i
  | none => failMismatch (.noSuchField name s.name)

def field (s : Schema) (name : String) : Except Error Field :=
  match s.field? name with
  | some f => .ok f
  | none => failMismatch (.noSuchField name s.name)

end Schema

end TypedRows
