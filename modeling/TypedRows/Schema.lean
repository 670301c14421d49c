import TypedRows.Kind
import TypedRows.Text.Quoted
/-!
# Schemas

A `Field` has a name, a kind and says whether it may be null; a `Schema` is a named list of fields with
different names. Both conditions are part of the types: the name of a field is not empty, a field of
kind null may be null, and no name occurs twice in a schema.
-/

namespace TypedRows

structure Field where
  name : String
  kind : Kind
  nullable : Bool
  name_ne_empty : name ≠ ""
  nullable_of_null : kind = .null → nullable = true
deriving DecidableEq, Repr

structure Schema where
  name : String
  fields : List Field
  nodup : (fields.map Field.name).Nodup
deriving DecidableEq, Repr

namespace Field

/-- The field with a name, a kind and a flag, if the name is not empty. A field of kind null may
always be null. -/
def ofParts? (name : String) (kind : Kind) (nullable : Bool) : Option Field :=
  if h : name = "" then none
  else some ⟨name, kind, nullable || kind == .null, h, by rintro rfl; simp⟩

/-- The field as a schema shows it: a question mark follows the kind if the field may be null. -/
def text (f : Field) : String := f.name ++ ":" ++ f.kind.name ++ (if f.nullable then "?" else "")

/-- The name of the kind in capital letters, with the width of a number. -/
def kindLabel : Kind → String
  | .null => "NULL"
  | .boolean => "BOOLEAN"
  | .int32 => "INT32"
  | .int64 => "INT64"
  | .float32 => "FLOAT32"
  | .float64 => "FLOAT64"
  | .string => "STRING"
  | .bytes => "BYTES"
  | .array => "ARRAY"
  | .map => "MAP"
  | .record => "RECORD"
  | .union => "UNION"

def literal (f : Field) : String :=
  "Field(name=" ++ Text.quoted f.name ++ ", kind=<Kind." ++ kindLabel f.kind ++ ": " ++
    Text.quoted f.kind.name ++ ">, nullable=" ++ (if f.nullable then "True" else "False") ++ ")"

end Field

namespace Schema

def names (s : Schema) : List String := s.fields.map Field.name

def size (s : Schema) : Nat := s.fields.length

def index? (s : Schema) (name : String) : Option Nat := s.fields.findIdx? fun f => f.name == name

def field? (s : Schema) (name : String) : Option Field := s.fields.find? fun f => f.name == name

def has (s : Schema) (name : String) : Bool := s.names.contains name

def literal (s : Schema) : String :=
  "Schema(" ++ Text.quoted s.name ++ ", [" ++ String.intercalate ", " (s.fields.map Field.text) ++ "])"

end Schema

/-- The first name that has occurred before. -/
def firstRepeated? : List String → List String → Option String
  | _, [] => none
  | seen, name :: rest =>
    if name ∈ seen then some name else firstRepeated? (name :: seen) rest

theorem nodup_of_firstRepeated? {seen names : List String} (h : firstRepeated? seen names = none) :
    names.Nodup ∧ ∀ name ∈ names, name ∉ seen := by
  induction names generalizing seen with
  | nil => simp
  | cons name rest ih =>
    unfold firstRepeated? at h
    split at h
    · cases h
    · rename_i fresh
      obtain ⟨nodup, apart⟩ := ih h
      refine ⟨List.nodup_cons.2 ⟨fun member => ?_, nodup⟩, ?_⟩
      · exact apart name member (List.mem_cons_self ..)
      · intro other member
        rcases List.mem_cons.1 member with rfl | member
        · exact fresh
        · exact fun seen' => apart other member (List.mem_cons_of_mem _ seen')

end TypedRows
