import Mathlib.Tactic.Choose
import TypedRows.Schema.Inference
import TypedRows.Proofs.Cell.Admission
import TypedRows.Proofs.Traversal
/-!
# Rows under inferred schemas

The schema that is inferred from columns has one field for each column (`Schema.fields_of_ofColumns`), the
columns are aligned with it (`ColumnTypes.ofGiven_columns`), and every row of values that the columns admit is
read as a record of it.

Main statement: `Record.ofRow_of_admits`.
-/

namespace TypedRows

/-! ## Inferred schemas -/

/-- The field has the name of the column, the kind that goes with its type and its flag for nulls. -/
structure Field.IsOf (f : Field) (c : Column) : Prop where
  name : c.name = some f.name
  kind : Kind.ofSqlType? c.sqlType = some f.kind
  nullable : c.isNullable = true → f.nullable = true

theorem Field.isOf_of_ofColumn {c : Column} {f : Field} (h : Field.ofColumn c = .ok f) : f.IsOf c := by
  cases hkind : Kind.ofSqlType? c.sqlType with
  | none => simp [Field.ofColumn, Kind.ofSqlType, hkind, bind, Except.bind] at h
  | some kind =>
    by_cases hname : c.name.getD "" = ""
    · simp [Field.ofColumn, Kind.ofSqlType, hkind, Field.ofParts, Field.ofParts?, hname, failMismatch, bind,
        Except.bind] at h
    · simp only [Field.ofColumn, Kind.ofSqlType, hkind, Field.ofParts, Field.ofParts?, hname, bind, Except.bind,
        ↓reduceDIte, Except.ok.injEq] at h
      subst h
      refine ⟨?_, hkind, fun hnull => by simp [hnull]⟩
      obtain ⟨text, htext⟩ : ∃ text, c.name = some text := by
        cases hc : c.name with
        | none => exact absurd (by rw [hc]; rfl) hname
        | some text => exact ⟨text, rfl⟩
      show c.name = some (c.name.getD "")
      rw [htext, Option.getD_some]

/-- **An inferred schema has the fields of its columns**, in the same order. -/
theorem Schema.fields_of_ofColumns {name : String} {columns : List Column} {schema : Schema}
    (h : Schema.ofColumns name columns = .ok schema) :
    schema.fields.length = columns.length ∧
      ∀ (i : Nat) c f, columns[i]? = some c → schema.fields[i]? = some f → Field.IsOf f c := by
  cases hfields : columns.mapM Field.ofColumn with
  | error e => simp [Schema.ofColumns, hfields, bind, Except.bind] at h
  | ok fields =>
    have hschema : schema.fields = fields := by
      simp only [Schema.ofColumns, hfields, bind, Except.bind, Schema.ofFields] at h
      split at h
      · cases h
      · cases h
        rfl
    obtain ⟨hlength, hitems⟩ := getElem?_of_mapM hfields
    rw [hschema]
    exact ⟨hlength, fun i c f hc hf => Field.isOf_of_ofColumn (hitems i c f hc hf)⟩

/-! ## Columns as column types -/

namespace ColumnTypes

theorem mapM_entryOf (columns : List Column) :
    (columns.map Cell.column).mapM entryOf = .ok (columns.map fun c => (c.name, c.sqlType)) := by
  induction columns with
  | nil => rfl
  | cons c columns ih =>
    rw [List.map_cons, List.mapM_cons, ih]
    rfl

/-- The first item of a list decides how it is read. -/
theorem firstItem?_list (items : List Cell) : firstItem? (.list items) = .ok items.head? := by
  cases items with
  | nil => rfl
  | cons item items => rfl

theorem read_columns_cons (schema : Schema) (c : Column) (columns : List Column) :
    read schema (.value (.list ((c :: columns).map Cell.column))) = .ok (ofColumns (c :: columns)) := by
  have hitems : (Cell.list ((c :: columns).map Cell.column)).items = .ok ((c :: columns).map Cell.column) := rfl
  simp only [read, firstItem?_list, List.map_cons, List.head?_cons, bind, Except.bind]
  rw [← List.map_cons, hitems]
  simp only [mapM_entryOf, pure, Except.pure, ofColumns]

/-- Descriptions of columns are read as such; if there are none, there are no types. -/
theorem read_columns {schema : Schema} {columns : List Column} (h : schema.fields.length = columns.length) :
    read schema (.value (.list (columns.map Cell.column))) = .ok (ofColumns columns) := by
  cases columns with
  | nil =>
    have hfields : schema.fields = [] := List.eq_nil_of_length_eq_zero h
    simp [read, firstItem?, Cell.truth, forSchema, Cell.length, Cell.relaxed, Schema.size, Schema.names, hfields,
      Cell.items, ofPairs, ofColumns, bind, Except.bind, pure, Except.pure]
  | cons c columns => exact read_columns_cons schema c columns

theorem types_ofColumns (columns : List Column) :
    (ofColumns columns).types = columns.map fun c => c.sqlType := by
  rw [types, ofColumns, List.map_map]
  rfl

theorem names_ofColumns (columns : List Column) : (ofColumns columns).names = columns.map ColumnOf.name := by
  rw [names, ofColumns, List.map_map]
  rfl

theorem firstOther?_eq_none_iff {fields : List Field} {entries : List (Option String × SqlType)}
    (h : entries.length = fields.length) (position : Nat) :
    firstOther? position fields entries = none ↔ entries.map Prod.fst = fields.map fun f => some f.name := by
  induction fields generalizing position entries with
  | nil =>
    obtain rfl := List.eq_nil_of_length_eq_zero h
    simp [firstOther?]
  | cons f fields ih =>
    cases entries with
    | nil => cases h
    | cons entry entries =>
      have hrest := ih (Nat.succ.inj h) (position + 1)
      by_cases hname : entry.1 = some f.name
      · rw [firstOther?, if_pos hname, hrest]
        simp [hname]
      · simp [firstOther?, hname]

/-- Column types are aligned with a schema exactly if they have the names of its fields in the same order. -/
theorem validate_eq_ok_iff {t : ColumnTypes} {schema : Schema} :
    t.validate schema = .ok () ↔ t.names = schema.names.map some := by
  have hnames : schema.names.map some = schema.fields.map fun f => some f.name := by
    rw [Schema.names, List.map_map]
    rfl
  rw [hnames, validate, names]
  by_cases hsize : t.size = schema.size
  · rw [if_neg (not_not.2 hsize), ← firstOther?_eq_none_iff hsize 0]
    cases firstOther? 0 schema.fields t.entries <;> simp [failMismatch]
  · rw [if_pos hsize]
    constructor
    · intro h
      cases h
    · intro h
      have hlength := congrArg List.length h
      rw [List.length_map, List.length_map] at hlength
      exact absurd hlength hsize

/-- The columns of which a schema was inferred are column types for it. -/
theorem ofGiven_columns {name : String} {columns : List Column} {schema : Schema}
    (h : Schema.ofColumns name columns = .ok schema) :
    ofGiven schema (.value (.list (columns.map Cell.column))) = .ok (ofColumns columns) := by
  obtain ⟨hlength, hfields⟩ := Schema.fields_of_ofColumns h
  have hnames : (ofColumns columns).names = schema.names.map some := by
    rw [names_ofColumns, Schema.names, List.map_map]
    refine List.ext_getElem (by simp [hlength]) fun i hc hf => ?_
    rw [List.getElem_map, List.getElem_map]
    exact (hfields i _ _ (List.getElem?_eq_getElem _) (List.getElem?_eq_getElem _)).name
  have hvalid := validate_eq_ok_iff.2 hnames
  simp [ofGiven, read_columns hlength, hvalid, bind, Except.bind, pure, Except.pure]

end ColumnTypes

/-! ## Rows -/

/-- The cell is null in a column that may hold nulls, or a value of the type of the column. -/
def ColumnOf.Admits (c : Column) (cell : Cell) : Prop :=
  (cell = .null ∧ c.isNullable = true) ∨ c.sqlType.Admits cell

/-- A cell that a column admits becomes a value of the field, null if the cell is. -/
theorem exists_value_of_admits {c : Column} {f : Field} {cell : Cell} (hf : f.IsOf c) (h : c.Admits cell) :
    ∃ value, (cell.normalize c.sqlType).outcome = .ok value ∧ f.holds value = true ∧
      (value.isNull = true ↔ cell = .null) ∧ (cell ≠ .null → f.kind.isCanonical value = true) := by
  rcases h with ⟨rfl, hnull⟩ | h
  · exact ⟨.null, Cell.normalize_null c.sqlType, Field.holds_null.trans (hf.nullable hnull),
      by simp [Cell.isNull], fun h => absurd rfl h⟩
  · obtain ⟨value, hvalue, hnull, hcan⟩ := SqlType.normalizesTo_of_admits hf.kind h
    refine ⟨value, hvalue, Field.holds_of_isCanonical hnull hcan, ?_, fun _ => hcan⟩
    constructor
    · intro htrue
      rw [hnull] at htrue
      cases htrue
    · rintro rfl
      cases hvalue
      cases hnull

/-- The columns of notes, with their numbers in a narrow column and their texts in a large object. -/
def noteColumns : List Column :=
  [{ name := some "id", sqlType := .tinyint, nullable := .bool false, typeCode := .null, displaySize := .null,
     internalSize := .null, precision := .null, scale := .null },
   { name := some "text", sqlType := .clob, nullable := .bool true, typeCode := .null, displaySize := .null,
     internalSize := .null, precision := .null, scale := .null }]

/-- **Every row of admitted cells is read** under the schema that is inferred from its columns. A value is null
exactly if the cell is, and otherwise in the form of the kind that goes with the type of its column. -/
theorem Record.ofRow_of_admits {name : String} {columns : List Column} {schema : Schema} {row : Cell}
    {cells : List Cell} (h : Schema.ofColumns name columns = .ok schema) (hrow : row.Positional cells)
    (hlength : cells.length = columns.length)
    (hcells : ∀ (i : Nat) c cell, columns[i]? = some c → cells[i]? = some cell → c.Admits cell) :
    ∃ r, (Record.ofRow schema (some (.value (.list (columns.map Cell.column)))) row).outcome = .ok r ∧
      r.schema = schema ∧ r.values.length = columns.length ∧
      ∀ (i : Nat) c cell value, columns[i]? = some c → cells[i]? = some cell → r.values[i]? = some value →
        (value.isNull = true ↔ cell = .null) ∧
          (cell ≠ .null → ∃ kind, Kind.ofSqlType? c.sqlType = some kind ∧ kind.isCanonical value = true) := by
  obtain ⟨hsize, hfields⟩ := Schema.fields_of_ofColumns h
  -- The items of the row: each column with its field and its cell.
  obtain ⟨hcolumn, hfield, hcell⟩ := map_zip_zip hsize hlength
  have hitem : ∀ a ∈ columns.zip (schema.fields.zip cells), ∃ value,
      (a.2.2.normalize a.1.sqlType).outcome = .ok value ∧ a.2.1.holds value = true ∧
        (value.isNull = true ↔ a.2.2 = .null) ∧ (a.2.2 ≠ .null → a.2.1.kind.isCanonical value = true) := by
    intro a ha
    obtain ⟨i, hi⟩ := List.getElem?_of_mem ha
    obtain ⟨hc, hf, hv⟩ := getElem?_zip_zip.1 hi
    exact exists_value_of_admits (hfields i a.1 a.2.1 hc hf) (hcells i a.1 a.2.2 hc hv)
  choose! value hvalue using hitem
  have htypes : (ColumnTypes.ofColumns columns).types =
      (columns.zip (schema.fields.zip cells)).map fun a => a.1.sqlType :=
    calc (ColumnTypes.ofColumns columns).types = columns.map fun c => c.sqlType :=
          ColumnTypes.types_ofColumns columns
      _ = ((columns.zip (schema.fields.zip cells)).map (·.1)).map fun c => c.sqlType := by rw [hcolumn]
      _ = (columns.zip (schema.fields.zip cells)).map fun a => a.1.sqlType := List.map_map
  have hgiven : ColumnTypes.forReading schema (some (.value (.list (columns.map Cell.column)))) =
      .ok (.ofColumns columns) := ColumnTypes.ofGiven_columns h
  have hvalues := rowValues_of_positional hrow (hlength.trans hsize.symm)
  rw [← hcell] at hvalues
  obtain ⟨r, hr, hschema, hread⟩ := Record.exists_ofRow hfield.symm hgiven htypes hvalues
    (fun a ha => (hvalue a ha).1) (fun a ha => (hvalue a ha).2.1)
  refine ⟨r, hr, hschema, ?_, fun i c cell v hc hv hresult => ?_⟩
  · rw [hread, List.length_map, ← congrArg List.length hcolumn, List.length_map]
  · rw [hread, List.getElem?_map, Option.map_eq_some_iff] at hresult
    obtain ⟨⟨c', f, cell'⟩, hi, rfl⟩ := hresult
    obtain ⟨hc', hf, hv'⟩ := getElem?_zip_zip.1 hi
    obtain rfl := Option.some.inj (hc'.symm.trans hc)
    obtain rfl := Option.some.inj (hv'.symm.trans hv)
    obtain ⟨-, -, hnull, hcan⟩ := hvalue _ (List.mem_of_getElem? hi)
    exact ⟨hnull, fun hne => ⟨f.kind, (hfields i _ f hc hf).kind, hcan hne⟩⟩

theorem Record.ofRow_of_admits_note :
    Schema.ofColumns "note" noteColumns = .ok noteSchema ∧
      (Cell.tuple [.int 7, .null]).Positional [.int 7, .null] ∧
      ([.int 7, .null] : List Cell).length = noteColumns.length ∧
      (∀ (i : Nat) c cell, noteColumns[i]? = some c → [Cell.int 7, .null][i]? = some cell → c.Admits cell) ∧
      ∃ r, (Record.ofRow noteSchema (some (.value (.list (noteColumns.map Cell.column))))
          (.tuple [.int 7, .null])).outcome = .ok r ∧
        r.schema = noteSchema ∧ r.values.length = 2 := by
  have hcells : ∀ (i : Nat) c cell, noteColumns[i]? = some c → [Cell.int 7, .null][i]? = some cell →
      c.Admits cell := by
    intro i c cell hc hcell
    match i with
    | 0 =>
      cases hc
      cases hcell
      exact .inr ⟨7, rfl, by decide⟩
    | 1 =>
      cases hc
      cases hcell
      exact .inl ⟨rfl, rfl⟩
    | i + 2 => cases hc
  have hschema : Schema.ofColumns "note" noteColumns = .ok noteSchema := rfl
  have hrow : (Cell.tuple [.int 7, .null]).Positional [.int 7, .null] := Cell.positional_tuple _
  obtain ⟨r, hr, hread, hlength, -⟩ := Record.ofRow_of_admits hschema hrow rfl hcells
  exact ⟨hschema, hrow, rfl, hcells, r, hr, hread, hlength⟩

end TypedRows
