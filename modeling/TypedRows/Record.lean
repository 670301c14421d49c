import TypedRows.Cell.LongInteger
import TypedRows.Entries
import TypedRows.Kind.Acceptance
import TypedRows.Schema
/-!
# Records

A `Record` has one value for each field of its schema. Its values are canonical: a value is null only
where the field allows it, and otherwise has the one form that the kind of the field prescribes. This
is part of the type (`Conforms`); `Record.ofEntries` checks and converts given values so that it holds, each
of them by `Field.check` (`_check_value`).
-/

namespace TypedRows

/-- The cell has the form in which a field of the kind holds values other than null. -/
def Kind.isCanonical : Kind → Cell → Bool
  | .null, _ => false
  | .boolean, .bool _ => true
  | .int32, cell => cell.asInt?.any (inRange int32Range)
  | .int64, cell => cell.asInt?.any (inRange int64Range)
  | .float32, .float _ | .float64, .float _ => true
  | .string, .text _ => true
  | .bytes, .bytes .frozen _ => true
  | .array, .list _ | .array, .tuple _ => true
  | .map, .map _ | .record, .map _ => true
  | .union, .boxed _ | .union, .null => false
  | .union, _ => true
  | _, _ => false

namespace Field

/-- The field can hold the cell as its value. -/
def holds (f : Field) (cell : Cell) : Bool :=
  if cell.isNull then f.nullable else f.kind.isCanonical cell

/-- The cell as a value of the field: taken out of its box, checked against the kind and converted to the form of
the kind (`_check_value`). -/
def check (f : Field) (cell : Cell) : Except Error Cell :=
  let cell := cell.unboxed
  if cell.isNull then
    if f.nullable then .ok .null else .error (.mismatch (.nullValue f.name))
  else if f.kind.accepts cell then f.kind.canonical cell
  else cell.refuse (.mismatch (.invalidValue f.name f.kind cell))

end Field

theorem plainInstant_ne_boxed (unit : TimeUnit) (count : Int) (b : Boxed) :
    plainInstant unit count ≠ .boxed b := by
  unfold plainInstant
  dsimp only
  split
  · split
    · simp
    · split <;> simp
  · split
    · simp
    · split <;> simp

theorem Cell.unboxed_ne_boxed (cell : Cell) (b : Boxed) : cell.unboxed ≠ .boxed b := by
  unfold Cell.unboxed
  split
  · rename_i inner
    cases inner with
    | instant unit count =>
      cases count with
      | none => simp [Boxed.plain]
      | some count => exact plainInstant_ne_boxed unit count b
    | _ => simp [Boxed.plain]
  · rename_i plain
    exact fun h => plain b h

theorem Cell.relaxed_unboxed (cell : Cell) : cell.unboxed.relaxed = cell.unboxed := by
  generalize h : cell.unboxed = plain
  have notBoxed := fun b => Cell.unboxed_ne_boxed cell b
  rw [h] at notBoxed
  unfold Cell.relaxed
  split <;> simp_all

/-- An accepted value becomes canonical. -/
theorem Kind.isCanonical_of_canonical {kind : Kind} {cell value : Cell}
    (plain : cell.relaxed = cell) (notNull : cell.isNull = false) (notBoxed : ∀ b, cell ≠ .boxed b)
    (accepted : kind.accepts cell = true) (converted : kind.canonical cell = .ok value) :
    value.isNull = false ∧ kind.isCanonical value = true := by
  unfold Kind.accepts at accepted
  rw [plain] at accepted
  have whole : ∀ {β : Type} {g : β → Cell} {e : Except Error β}, e.map g = .ok value →
      ∃ b, value = g b := by
    intro β g e h
    cases e with
    | error _ => cases h
    | ok b => exact ⟨b, (Except.ok.inj h).symm⟩
  cases kind with
  | float32 => obtain ⟨x, rfl⟩ := whole converted; exact ⟨rfl, rfl⟩
  | float64 => obtain ⟨x, rfl⟩ := whole converted; exact ⟨rfl, rfl⟩
  | bytes => obtain ⟨x, rfl⟩ := whole converted; exact ⟨rfl, rfl⟩
  | _ =>
    simp only [Kind.canonical, Except.ok.injEq] at converted
    subst converted
    refine ⟨notNull, ?_⟩
    cases cell <;> simp_all [Kind.isCanonical, Cell.isNull]

/-- A checked value is one that the field can hold. -/
theorem Field.holds_of_check {f : Field} {cell value : Cell} (h : f.check cell = .ok value) :
    f.holds value = true := by
  unfold Field.check at h
  simp only at h
  split at h
  · split at h
    · cases h; simpa [Field.holds, Cell.isNull]
    · cases h
  · rename_i notNull
    split at h
    · rename_i accepted
      obtain ⟨valueNotNull, canonical⟩ := Kind.isCanonical_of_canonical
        (Cell.relaxed_unboxed cell) (by simpa using notNull) (Cell.unboxed_ne_boxed cell) accepted h
      simp [Field.holds, valueNotNull, canonical]
    · unfold Cell.refuse at h
      split at h <;> cases h

/-- There is one value for each field, and the field can hold it. -/
def Conforms : List Field → List Cell → Prop
  | [], [] => True
  | f :: fields, value :: values => f.holds value = true ∧ Conforms fields values
  | _, _ => False

/-- A value for each field of a schema. -/
structure Record where
  schema : Schema
  /-- The values in the order of the fields. -/
  values : List Cell
  conforms : Conforms schema.fields values

/-- The values of the fields, which a table gives by name, checked in the order of the fields. -/
def checkAll (given : List (String × Cell)) : List Field → Except Error (List Cell)
  | [] => .ok []
  | f :: fields =>
    match Entries.get? given f.name with
    | none => .error (.mismatch (.missingValue f.name))
    | some cell =>
      match f.check cell with
      | .error e => .error e
      | .ok value => (checkAll given fields).map (value :: ·)

theorem conforms_of_checkAll {given : List (String × Cell)} {fields : List Field}
    {values : List Cell} (h : checkAll given fields = .ok values) : Conforms fields values := by
  induction fields generalizing values with
  | nil => cases h; trivial
  | cons f fields ih =>
    unfold checkAll at h
    split at h
    · cases h
    · split at h
      · cases h
      · rename_i value checked
        cases rest : checkAll given fields with
        | error e => rw [rest] at h; cases h
        | ok tail =>
          rw [rest] at h
          cases h
          exact ⟨Field.holds_of_check checked, ih rest⟩

namespace Record

/-- The record with the values that a table gives by name. The table must have the names of the fields
and no others. -/
def ofEntries (schema : Schema) (given : List (String × Cell)) : Except Error Record :=
  match (given.map (·.1)).filter fun name => !schema.has name with
  | first :: rest => .error (.mismatch (.unknownNames first rest schema.name))
  | [] =>
    match h : checkAll given schema.fields with
    | .error e => .error e
    | .ok values => .ok ⟨schema, values, conforms_of_checkAll h⟩

def entries (r : Record) : List (String × Cell) := r.schema.names.zip r.values

def get? (r : Record) (name : String) : Option Cell := Entries.get? r.entries name

/-- The value of a field, or the failure for a name that is no field. -/
def get (r : Record) (name : String) : Except Error Cell :=
  match r.get? name with
  | some value => .ok value
  | none => .error (.key (.text name))

def size (r : Record) : Nat := r.values.length

/-- The values of two tables under the names of the second are alike, up to the first name of which they
are not. -/
def alikeValues (b : List (String × Cell)) : List (String × Cell) → Except Error Bool
  | [] => .ok true
  | (name, value) :: rest =>
    match Entries.get? b name with
    | none => .ok false
    | some value' =>
      match value.alike value' with
      | .ok true => alikeValues b rest
      | answer => answer

/-- The values of two tables with the same names are alike. -/
def alikeEntries (a b : List (String × Cell)) : Except Error Bool :=
  if a.length = b.length then alikeValues b a else .ok false

/-- Equality of records: the same schema and values that are alike. -/
def alike (a b : Record) : Except Error Bool :=
  if a.schema = b.schema then alikeEntries a.entries b.entries else .ok false

def literal (r : Record) : String :=
  "Record(" ++ Text.quoted r.schema.name ++ ", " ++
    bracketed "\x7b" "\x7d" (r.entries.map fun entry => Text.quoted entry.1 ++ ": " ++ entry.2.literal) ++
    ")"

end Record

end TypedRows
