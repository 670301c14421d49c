import TypedRows.Proofs.Entries
import TypedRows.Record.Reading
/-!
# Records of given values

A value that a field can hold passes the check of the field as it is (`Field.check_of_holds`); for the kinds without
parts, `Kind.Plain` lists the forms of such values. From this the steps that make a record of a row are taken column
by column: `normalizeAll_map` for the normalization, `checkAll_map` for the checks, `Record.exists_ofEntries` for the
record and `Record.exists_ofRow` for the whole row. In all of them the columns are a list `items`, and what belongs to
a column is a function of its item.
-/

namespace TypedRows

/-! ## Values in canonical form -/

theorem Cell.unboxed_of_ne_boxed {cell : Cell} (h : ∀ b, cell ≠ .boxed b) : cell.unboxed = cell := by
  cases cell with
  | boxed b => exact absurd rfl (h b)
  | _ => rfl

theorem Cell.relaxed_of_ne_boxed {cell : Cell} (h : ∀ b, cell ≠ .boxed b) : cell.relaxed = cell := by
  cases cell with
  | boxed b => exact absurd rfl (h b)
  | _ => rfl

theorem Cell.asInt?_eq_some_iff {cell : Cell} {i : Int} :
    cell.asInt? = some i ↔ cell = .int i ∨ ∃ t : SqlType, cell = .sqlType t ∧ t.code = i := by
  cases cell <;> simp [Cell.asInt?]

theorem Cell.isNull_of_asInt? {cell : Cell} {i : Int} (h : cell.asInt? = some i) : cell.isNull = false := by
  rcases Cell.asInt?_eq_some_iff.1 h with rfl | ⟨t, rfl, rfl⟩ <;> rfl

theorem Cell.eq_null_of_isNull {cell : Cell} (h : cell.isNull = true) : cell = .null := by
  cases cell <;> first | rfl | cases h

theorem inRange_iff {range : Int × Int} {i : Int} : inRange range i = true ↔ range.1 ≤ i ∧ i ≤ range.2 := by
  simp [inRange]

namespace Kind

theorem isCanonical_boolean {cell : Cell} : isCanonical .boolean cell = true ↔ ∃ b, cell = .bool b := by
  cases cell <;> simp [isCanonical]

theorem isCanonical_int32 {cell : Cell} :
    isCanonical .int32 cell = true ↔ ∃ i, cell.asInt? = some i ∧ int32Range.1 ≤ i ∧ i ≤ int32Range.2 := by
  simp [isCanonical, Option.any_eq_true, inRange_iff]

theorem isCanonical_int64 {cell : Cell} :
    isCanonical .int64 cell = true ↔ ∃ i, cell.asInt? = some i ∧ int64Range.1 ≤ i ∧ i ≤ int64Range.2 := by
  simp [isCanonical, Option.any_eq_true, inRange_iff]

theorem isCanonical_float32 {cell : Cell} : isCanonical .float32 cell = true ↔ ∃ x, cell = .float x := by
  cases cell <;> simp [isCanonical]

theorem isCanonical_float64 {cell : Cell} : isCanonical .float64 cell = true ↔ ∃ x, cell = .float x := by
  cases cell <;> simp [isCanonical]

theorem isCanonical_string {cell : Cell} : isCanonical .string cell = true ↔ ∃ s, cell = .text s := by
  cases cell <;> simp [isCanonical]

theorem isCanonical_bytes {cell : Cell} : isCanonical .bytes cell = true ↔ ∃ data, cell = .bytes .frozen data := by
  cases cell with
  | bytes form data => cases form <;> simp [isCanonical]
  | _ => simp [isCanonical]

theorem ne_boxed_of_isCanonical {kind : Kind} {cell : Cell} (h : kind.isCanonical cell = true) (b : Boxed) :
    cell ≠ .boxed b := by
  rintro rfl
  cases kind <;> simp [isCanonical, Cell.asInt?] at h

/-- A canonical value is accepted, and its canonical form is the value itself. -/
theorem canonical_of_isCanonical {kind : Kind} {cell : Cell} (h : kind.isCanonical cell = true) :
    kind.accepts cell = true ∧ kind.canonical cell = .ok cell := by
  unfold accepts
  rw [Cell.relaxed_of_ne_boxed (ne_boxed_of_isCanonical h)]
  cases kind with
  | null => cases h
  | boolean => obtain ⟨b, rfl⟩ := isCanonical_boolean.1 h; exact ⟨rfl, rfl⟩
  | int32 => exact ⟨h, rfl⟩
  | int64 => exact ⟨h, rfl⟩
  | float32 => obtain ⟨x, rfl⟩ := isCanonical_float32.1 h; exact ⟨rfl, rfl⟩
  | float64 => obtain ⟨x, rfl⟩ := isCanonical_float64.1 h; exact ⟨rfl, rfl⟩
  | string => obtain ⟨s, rfl⟩ := isCanonical_string.1 h; exact ⟨rfl, rfl⟩
  | bytes => obtain ⟨data, rfl⟩ := isCanonical_bytes.1 h; exact ⟨rfl, rfl⟩
  | array | map | record =>
    refine ⟨?_, rfl⟩
    cases cell <;> simp_all [isCanonical]
  | union => exact ⟨rfl, rfl⟩

/-- The values of the kinds without parts, in canonical form. -/
inductive Plain : Kind → Cell → Prop
  | boolean (b : Bool) : Plain .boolean (.bool b)
  | int32 {cell : Cell} (i : Int) (asInt : cell.asInt? = some i) (range : int32Range.1 ≤ i ∧ i ≤ int32Range.2) :
      Plain .int32 cell
  | int64 {cell : Cell} (i : Int) (asInt : cell.asInt? = some i) (range : int64Range.1 ≤ i ∧ i ≤ int64Range.2) :
      Plain .int64 cell
  | float32 (x : Double) : Plain .float32 (.float x)
  | float64 (x : Double) : Plain .float64 (.float x)
  | string (s : String) : Plain .string (.text s)
  | bytes (data : Bytes) : Plain .bytes (.bytes .frozen data)

theorem plain_of_isCanonical {kind : Kind} {cell : Cell} (hscalar : kind.isScalar = true)
    (h : kind.isCanonical cell = true) : kind.Plain cell := by
  cases kind with
  | null => cases h
  | boolean => obtain ⟨b, rfl⟩ := isCanonical_boolean.1 h; exact .boolean b
  | int32 => obtain ⟨i, hi, hrange⟩ := isCanonical_int32.1 h; exact .int32 i hi hrange
  | int64 => obtain ⟨i, hi, hrange⟩ := isCanonical_int64.1 h; exact .int64 i hi hrange
  | float32 => obtain ⟨x, rfl⟩ := isCanonical_float32.1 h; exact .float32 x
  | float64 => obtain ⟨x, rfl⟩ := isCanonical_float64.1 h; exact .float64 x
  | string => obtain ⟨s, rfl⟩ := isCanonical_string.1 h; exact .string s
  | bytes => obtain ⟨data, rfl⟩ := isCanonical_bytes.1 h; exact .bytes data
  | array | map | record | union => cases hscalar

end Kind

namespace Field

theorem holds_null {f : Field} : f.holds .null = f.nullable := by
  simp [holds, Cell.isNull]

theorem holds_of_isCanonical {f : Field} {cell : Cell} (hnull : cell.isNull = false)
    (h : f.kind.isCanonical cell = true) : f.holds cell = true := by
  simp [holds, hnull, h]

theorem isCanonical_of_holds {f : Field} {cell : Cell} (h : f.holds cell = true) (hnull : cell.isNull = false) :
    f.kind.isCanonical cell = true := by
  simpa [holds, hnull] using h

/-- **A value that a field holds passes its check unchanged.** -/
theorem check_of_holds {f : Field} {cell : Cell} (h : f.holds cell = true) : f.check cell = .ok cell := by
  cases hnull : cell.isNull with
  | true =>
    obtain rfl := Cell.eq_null_of_isNull hnull
    rw [holds_null] at h
    simp [check, Cell.unboxed, Cell.isNull, h]
  | false =>
    have hcan := isCanonical_of_holds h hnull
    obtain ⟨haccept, hform⟩ := Kind.canonical_of_isCanonical hcan
    simp [check, Cell.unboxed_of_ne_boxed (Kind.ne_boxed_of_isCanonical hcan), hnull, haccept, hform]

end Field

/-! ## Three lists side by side -/

section Zips

variable {α β γ : Type} {xs : List α} {ys : List β} {zs : List γ}

theorem map_zip_zip (hy : ys.length = xs.length) (hz : zs.length = xs.length) :
    (xs.zip (ys.zip zs)).map (·.1) = xs ∧ (xs.zip (ys.zip zs)).map (·.2.1) = ys ∧
      (xs.zip (ys.zip zs)).map (·.2.2) = zs := by
  have hyz : (ys.zip zs).length = xs.length := by rw [List.length_zip, hy, hz, Nat.min_self]
  have hsnd : (xs.zip (ys.zip zs)).map Prod.snd = ys.zip zs := List.map_snd_zip (Nat.le_of_eq hyz)
  refine ⟨List.map_fst_zip (Nat.le_of_eq hyz.symm), ?_, ?_⟩
  · show (xs.zip (ys.zip zs)).map (Prod.fst ∘ Prod.snd) = _
    rw [← List.map_map, hsnd, List.map_fst_zip (by omega)]
  · show (xs.zip (ys.zip zs)).map (Prod.snd ∘ Prod.snd) = _
    rw [← List.map_map, hsnd, List.map_snd_zip (by omega)]

theorem getElem?_zip_zip {i : Nat} {x : α} {y : β} {z : γ} :
    (xs.zip (ys.zip zs))[i]? = some (x, y, z) ↔ xs[i]? = some x ∧ ys[i]? = some y ∧ zs[i]? = some z := by
  rw [List.getElem?_zip_eq_some, List.getElem?_zip_eq_some]

end Zips

/-! ## Conforming values -/

theorem Conforms.length_eq : ∀ {fields : List Field} {values : List Cell}, Conforms fields values →
    values.length = fields.length
  | [], [], _ => rfl
  | _ :: _, _ :: _, h => congrArg (· + 1) (Conforms.length_eq h.2)

/-- Every value is one that its field can hold. -/
theorem Conforms.holds_of_mem_zip {fields : List Field} {values : List Cell} (h : Conforms fields values) :
    ∀ c ∈ fields.zip values, c.1.holds c.2 = true := by
  induction fields generalizing values with
  | nil => simp
  | cons f fields ih =>
    cases values with
    | nil => exact h.elim
    | cons value values =>
      intro c hc
      rcases List.mem_cons.1 hc with rfl | hc
      · exact h.1
      · exact ih h.2 c hc

/-- The value of every column is one that its field can hold. -/
theorem Conforms.holds_of_mem {fields : List Field} {types : List SqlType} {values : List Cell}
    (h : Conforms fields values) : ∀ c ∈ fields.zip (types.zip values), c.1.holds c.2.2 = true := by
  intro c hc
  obtain ⟨i, hi⟩ := List.getElem?_of_mem hc
  obtain ⟨hf, -, hv⟩ := getElem?_zip_zip.1 hi
  exact h.holds_of_mem_zip (c.1, c.2.2) (List.mem_of_getElem? (List.getElem?_zip_eq_some.2 ⟨hf, hv⟩))

theorem Record.eq_of_values {r r' : Record} (hschema : r.schema = r'.schema) (hvalues : r.values = r'.values) :
    r = r' := by
  cases r
  cases r'
  cases hschema
  cases hvalues
  rfl

/-! ## The checks of all fields -/

section Items

variable {α : Type} {items : List α} {field : α → Field} {type : α → SqlType} {cell value : α → Cell}

theorem checkAll_map {given : List (String × Cell)} :
    ∀ {items : List α}, (∀ a ∈ items, Entries.get? given (field a).name = some (cell a)) →
      (∀ a ∈ items, (field a).check (cell a) = .ok (value a)) →
      checkAll given (items.map field) = .ok (items.map value)
  | [], _, _ => rfl
  | a :: items, hget, hcheck => by
    have ih := checkAll_map (fun a h => hget a (List.mem_cons_of_mem _ h))
      (fun a h => hcheck a (List.mem_cons_of_mem _ h))
    simp only [List.map_cons, checkAll, hget a List.mem_cons_self, hcheck a List.mem_cons_self, ih, Except.map]

theorem zip_names (schema : Schema) (hfields : schema.fields = items.map field) :
    schema.names.zip (items.map cell) = items.map fun a => ((field a).name, cell a) := by
  rw [Schema.names, hfields, List.map_map, List.zip_map']
  rfl

/-- A table of known names makes a record of the checked values, if all fields pass their checks. -/
theorem Record.ofEntries_of_checkAll {schema : Schema} {given : List (String × Cell)} {values : List Cell}
    (hknown : ((given.map Prod.fst).filter fun name => !schema.has name) = [])
    (h : checkAll given schema.fields = .ok values) :
    ∃ r, Record.ofEntries schema given = .ok r ∧ r.schema = schema ∧ r.values = values := by
  unfold Record.ofEntries
  rw [hknown]
  dsimp only
  split
  · rename_i e he
    rw [h] at he
    cases he
  · rename_i values' hvalues
    rw [h] at hvalues
    exact ⟨_, rfl, rfl, (Except.ok.inj hvalues).symm⟩

/-- Cells that pass the checks of the fields one by one make a record of their checked values. -/
theorem Record.exists_ofEntries (schema : Schema) (hfields : schema.fields = items.map field)
    (hcheck : ∀ a ∈ items, (field a).check (cell a) = .ok (value a)) :
    ∃ r, Record.ofEntries schema (schema.names.zip (items.map cell)) = .ok r ∧ r.schema = schema ∧
      r.values = items.map value := by
  have hkeys : (schema.names.zip (items.map cell)).map Prod.fst = schema.names := by
    rw [zip_names schema hfields, Schema.names, hfields, List.map_map, List.map_map]
    rfl
  have hget : ∀ a ∈ items, Entries.get? (schema.names.zip (items.map cell)) (field a).name = some (cell a) := by
    intro a ha
    refine Entries.get?_of_mem (by rw [hkeys]; exact schema.nodup) ?_
    rw [zip_names schema hfields]
    exact List.mem_map.2 ⟨a, ha, rfl⟩
  have hknown : (schema.names.filter fun name => !schema.has name) = [] := by
    simp [Schema.has]
  have hall := checkAll_map hget hcheck
  rw [← hfields] at hall
  exact Record.ofEntries_of_checkAll (by rw [hkeys, hknown]) hall

/-! ## Rows -/

/-- The row is read by position, and the cells are its items. -/
structure Cell.Positional (row : Cell) (cells : List Cell) : Prop where
  not_map : ∀ entries, row ≠ .map entries
  not_keyed : ∀ names entries, row ≠ .keyed names entries
  length : row.length = .ok cells.length
  items : row.items = .ok cells

theorem Cell.positional_list (cells : List Cell) : (Cell.list cells).Positional cells :=
  ⟨by simp, by simp, rfl, rfl⟩

theorem Cell.positional_tuple (cells : List Cell) : (Cell.tuple cells).Positional cells :=
  ⟨by simp, by simp, rfl, rfl⟩

theorem rowValues_of_positional {schema : Schema} {row : Cell} {cells : List Cell} (h : row.Positional cells)
    (hsize : cells.length = schema.size) : rowValues schema row = .ok cells := by
  unfold rowValues
  split
  · rename_i entries
    exact absurd rfl (h.not_map entries)
  · rename_i names entries
    exact absurd rfl (h.not_keyed names entries)
  · simp [positionalValues, h.length, h.items, hsize, bind, Except.bind]

theorem Traced.outcome_bind {ε α β : Type} {first : Traced ε α} {next : α → Traced ε β} {a : α}
    (h : first.outcome = .ok a) : (first >>= next).outcome = (next a).outcome := by
  show (Traced.bind first next).outcome = _
  simp only [Traced.bind, h]

/-- A computation that succeeds does so step by step. -/
theorem Traced.exists_of_bind_ok {ε α β : Type} {first : Traced ε α} {next : α → Traced ε β} {b : β}
    (h : (first >>= next).outcome = .ok b) : ∃ a, first.outcome = .ok a ∧ (next a).outcome = .ok b := by
  cases hfirst : first.outcome with
  | ok a => exact ⟨a, rfl, (Traced.outcome_bind hfirst).symm.trans h⟩
  | error e =>
    have hbind : (first >>= next).outcome = .error e := by
      show (Traced.bind first next).outcome = _
      simp only [Traced.bind, hfirst]
    rw [hbind] at h
    cases h

theorem Traced.outcome_lift {ε α : Type} (x : Except ε α) : (liftM x : Traced ε α).outcome = x := rfl

theorem normalizeAll_map : ∀ {items : List α},
    (∀ a ∈ items, ((cell a).normalize (type a)).outcome = .ok (value a)) →
      (normalizeAll (items.map type) (items.map cell)).outcome = .ok (items.map value)
  | [], _ => rfl
  | a :: items, h => by
    have ih := normalizeAll_map fun a ha => h a (List.mem_cons_of_mem _ ha)
    rw [List.map_cons, List.map_cons, normalizeAll, Traced.outcome_bind (h a List.mem_cons_self),
      Traced.outcome_bind ih]
    rfl

/-- A row whose cells are all normalized gives what its values are made to. -/
theorem Record.outcome_ofRow {schema : Schema} {given : Option ColumnTypes.Given} {types : ColumnTypes} {row : Cell}
    {cells values : List Cell} (htypes : ColumnTypes.forReading schema given = .ok types)
    (hrow : rowValues schema row = .ok cells) (hnormal : (normalizeAll types.types cells).outcome = .ok values) :
    (Record.ofRow schema given row).outcome = Record.ofEntries schema (schema.names.zip values) := by
  rw [Record.ofRow, Traced.outcome_bind (by rw [Traced.outcome_lift, htypes]),
    Traced.outcome_bind (by rw [Traced.outcome_lift, hrow]), Traced.outcome_bind hnormal, Traced.outcome_lift]

/-- **A row of cells that are normalized to values of the fields makes a record of these values.** -/
theorem Record.exists_ofRow {schema : Schema} {given : Option ColumnTypes.Given} {types : ColumnTypes} {row : Cell}
    (hfields : schema.fields = items.map field) (htypes : ColumnTypes.forReading schema given = .ok types)
    (htype : types.types = items.map type) (hrow : rowValues schema row = .ok (items.map cell))
    (hnormal : ∀ a ∈ items, ((cell a).normalize (type a)).outcome = .ok (value a))
    (hholds : ∀ a ∈ items, (field a).holds (value a) = true) :
    ∃ r, (Record.ofRow schema given row).outcome = .ok r ∧ r.schema = schema ∧ r.values = items.map value := by
  obtain ⟨r, hr, hschema, hvalues⟩ := Record.exists_ofEntries schema hfields fun a ha =>
    Field.check_of_holds (hholds a ha)
  have hall := normalizeAll_map hnormal
  rw [← htype] at hall
  exact ⟨r, (Record.outcome_ofRow htypes hrow hall).trans hr, hschema, hvalues⟩

end Items

/-- A row that makes a record passes every step. -/
theorem Record.ofRow_ok {schema : Schema} {given : Option ColumnTypes.Given} {row : Cell} {r : Record}
    (h : (Record.ofRow schema given row).outcome = .ok r) :
    ∃ types cells values, ColumnTypes.forReading schema given = .ok types ∧ rowValues schema row = .ok cells ∧
      (normalizeAll types.types cells).outcome = .ok values ∧
      Record.ofEntries schema (schema.names.zip values) = .ok r := by
  obtain ⟨types, htypes, h⟩ := Traced.exists_of_bind_ok h
  obtain ⟨cells, hcells, h⟩ := Traced.exists_of_bind_ok h
  obtain ⟨values, hvalues, h⟩ := Traced.exists_of_bind_ok h
  exact ⟨types, cells, values, htypes, hcells, hvalues, h⟩

/-- A table makes a record of the schema that it is given for. -/
theorem Record.schema_of_ofEntries {schema : Schema} {given : List (String × Cell)} {r : Record}
    (h : Record.ofEntries schema given = .ok r) : r.schema = schema := by
  unfold Record.ofEntries at h
  split at h
  · cases h
  · split at h
    · cases h
    · cases h
      rfl

theorem Record.schema_of_ofRow {schema : Schema} {given : Option ColumnTypes.Given} {row : Cell} {r : Record}
    (h : (Record.ofRow schema given row).outcome = .ok r) : r.schema = schema := by
  obtain ⟨_, _, _, _, _, _, hentries⟩ := Record.ofRow_ok h
  exact Record.schema_of_ofEntries hentries

/-! ## The fields of a record with their values -/

namespace Record

/-- The fields of a record with their values. -/
def fieldValues (r : Record) : List (Field × Cell) := r.schema.fields.zip r.values

variable (r : Record)

theorem holds_of_mem_fieldValues : ∀ c ∈ r.fieldValues, c.1.holds c.2 = true :=
  r.conforms.holds_of_mem_zip

theorem fields_eq : r.schema.fields = r.fieldValues.map Prod.fst :=
  (List.map_fst_zip (Nat.le_of_eq r.conforms.length_eq.symm)).symm

theorem values_eq : r.values = r.fieldValues.map Prod.snd :=
  (List.map_snd_zip (Nat.le_of_eq r.conforms.length_eq)).symm

theorem names_eq : r.schema.names = r.fieldValues.map fun c => c.1.name := by
  rw [Schema.names, fields_eq, List.map_map]
  rfl

theorem entries_eq : r.entries = r.fieldValues.map fun c => (c.1.name, c.2) := by
  rw [entries, values_eq]
  exact zip_names r.schema r.fields_eq

/-- The names of the entries are those of the schema, in the same order. -/
theorem names_entries : r.entries.map Prod.fst = r.schema.names := by
  rw [entries_eq, names_eq, List.map_map]
  rfl

/-- The value of a field is found by its name. -/
theorem get?_of_mem_fieldValues {c : Field × Cell} (hc : c ∈ r.fieldValues) :
    Entries.get? r.entries c.1.name = some c.2 := by
  refine Entries.get?_of_mem (by rw [names_entries]; exact r.schema.nodup) ?_
  rw [entries_eq]
  exact List.mem_map.2 ⟨c, hc, rfl⟩

/-- **The entries of a record make the record.** -/
theorem ofEntries_entries : Record.ofEntries r.schema r.entries = .ok r := by
  obtain ⟨r', hr', hschema, hvalues⟩ := Record.exists_ofEntries r.schema r.fields_eq fun c hc =>
    Field.check_of_holds (r.holds_of_mem_fieldValues c hc)
  rw [← values_eq] at hr' hvalues
  rw [entries, hr', Record.eq_of_values hschema hvalues]

end Record

/-! ## A sample -/

/-- A note has a number and perhaps a text. -/
def noteSchema : Schema where
  name := "note"
  fields := [⟨"id", .int32, false, by decide, by decide⟩, ⟨"text", .string, true, by decide, by decide⟩]
  nodup := by decide

def note (text : String) : Record := ⟨noteSchema, [.int 7, .text text], rfl, rfl, trivial⟩

end TypedRows
