import TypedRows.Record.Builder
import TypedRows.Proofs.Cell.Handle
import TypedRows.Proofs.Cell.Normalization
import TypedRows.Proofs.Record.Construction
import TypedRows.Proofs.Traversal
/-!
# Records are made of themselves

A record is made of a table of values, built step by step or read from a row (`Record.Obtained`). Each way ends in
the checks of its fields, so its values are in the forms that their kinds prescribe (`Kind.HasForm`,
`Record.Canonical`).

Values in these forms pass every way again untouched (`Record.Reproduced`): the checks leave them as they are, and
so does the normalization for the type that is assumed for a field of which only the kind is known
(`Field.normalize_default`).

Main statement: `Record.reproduced_of_obtained`.
-/

namespace TypedRows

/-! ## The forms of values -/

/-- The form of the values of a kind other than null. -/
def Kind.HasForm (kind : Kind) (value : Cell) : Prop :=
  match kind with
  | .null => False
  | .boolean => ∃ b, value = .bool b
  | .int32 => ∃ i, value.asInt? = some i ∧ Kind.int32Range.1 ≤ i ∧ i ≤ Kind.int32Range.2
  | .int64 => ∃ i, value.asInt? = some i ∧ Kind.int64Range.1 ≤ i ∧ i ≤ Kind.int64Range.2
  | .float32 | .float64 => ∃ x, value = .float x
  | .string => ∃ s, value = .text s
  | .bytes => ∃ data, value = .bytes .frozen data
  | .array => ∃ items, value = .list items ∨ value = .tuple items
  | .map | .record => ∃ entries, value = .map entries
  | .union => value ≠ .null ∧ ∀ b, value ≠ .boxed b

def Field.HasForm (f : Field) (value : Cell) : Prop :=
  value = .null ∧ f.nullable = true ∨ f.kind.HasForm value

theorem Kind.isCanonical_iff_hasForm {kind : Kind} {value : Cell} :
    kind.isCanonical value = true ↔ kind.HasForm value := by
  cases kind with
  | null => simp [isCanonical, HasForm]
  | boolean => exact isCanonical_boolean
  | int32 => exact isCanonical_int32
  | int64 => exact isCanonical_int64
  | float32 => exact isCanonical_float32
  | float64 => exact isCanonical_float64
  | string => exact isCanonical_string
  | bytes => exact isCanonical_bytes
  | array | map | record | union => cases value <;> simp [isCanonical, HasForm]

theorem Field.hasForm_of_holds {f : Field} {value : Cell} (h : f.holds value = true) : f.HasForm value := by
  cases hnull : value.isNull with
  | true =>
    obtain rfl := Cell.eq_null_of_isNull hnull
    exact .inl ⟨rfl, Field.holds_null.symm.trans h⟩
  | false => exact .inr (Kind.isCanonical_iff_hasForm.1 (Field.isCanonical_of_holds h hnull))

/-! ## Normalization by default -/

/-- The types that are assumed for the kinds have no large objects. -/
theorem Kind.lobSort?_defaultSqlType (kind : Kind) : kind.defaultSqlType.lobSort? = none := by
  cases kind <;> rfl

/-- A cell of a column of any type is left as it is, unless it is boxed. -/
theorem Cell.normalize_other {cell : Cell} (h : cell.unboxed = cell) : (cell.normalize .other).outcome = .ok cell := by
  unfold normalize
  rw [h]
  cases hnull : cell.isNull with
  | true =>
    obtain rfl := eq_null_of_isNull hnull
    rfl
  | false => rfl

theorem Kind.normalize_default {kind : Kind} {value : Cell} (h : kind.isCanonical value = true) :
    (value.normalize kind.defaultSqlType).outcome = .ok value := by
  have hplain := Cell.unboxed_of_ne_boxed (Kind.ne_boxed_of_isCanonical h)
  cases kind with
  | null => cases h
  | boolean =>
    obtain ⟨b, rfl⟩ := isCanonical_boolean.1 h
    exact Cell.normalize_bool rfl b
  | int32 =>
    obtain ⟨i, hi, -⟩ := isCanonical_int32.1 h
    exact Cell.normalize_int (.inl rfl) hi
  | int64 =>
    obtain ⟨i, hi, -⟩ := isCanonical_int64.1 h
    exact Cell.normalize_int (.inr rfl) hi
  | float32 =>
    obtain ⟨x, rfl⟩ := isCanonical_float32.1 h
    exact Cell.normalize_float (.inl rfl) x
  | float64 =>
    obtain ⟨x, rfl⟩ := isCanonical_float64.1 h
    exact Cell.normalize_float (.inr rfl) x
  | string =>
    obtain ⟨s, rfl⟩ := isCanonical_string.1 h
    exact Cell.normalize_text rfl s
  | bytes =>
    obtain ⟨data, rfl⟩ := isCanonical_bytes.1 h
    exact Cell.normalize_bytes rfl .frozen data
  | array | map | record | union => exact Cell.normalize_other hplain

/-- **A value of a field is left as it is** by the normalization for the type that is assumed for the field, and no
handle is called. -/
theorem Field.normalize_default {f : Field} {value : Cell} (h : f.holds value = true) :
    value.normalize f.kind.defaultSqlType = ⟨[], .ok value⟩ := by
  have hcalls : (value.normalize f.kind.defaultSqlType).calls = [] :=
    Cell.calls_normalize_of_lobSort? (Kind.lobSort?_defaultSqlType f.kind)
  have houtcome : (value.normalize f.kind.defaultSqlType).outcome = .ok value := by
    cases hnull : value.isNull with
    | true =>
      obtain rfl := Cell.eq_null_of_isNull hnull
      exact Cell.normalize_null f.kind.defaultSqlType
    | false => exact Kind.normalize_default (Field.isCanonical_of_holds h hnull)
  cases hrun : value.normalize f.kind.defaultSqlType with
  | mk calls outcome =>
    rw [hrun] at hcalls houtcome
    subst hcalls houtcome
    rfl

/-- Values of fields are left as they are one by one. -/
theorem normalizeAll_default {columns : List (Field × Cell)} (h : ∀ c ∈ columns, c.1.holds c.2 = true) :
    normalizeAll (columns.map fun c => c.1.kind.defaultSqlType) (columns.map fun c => c.2) =
      ⟨[], .ok (columns.map fun c => c.2)⟩ := by
  induction columns with
  | nil => rfl
  | cons c columns ih =>
    have hrest := ih fun c' hc' => h c' (List.mem_cons_of_mem _ hc')
    rw [List.map_cons, List.map_cons, normalizeAll, Field.normalize_default (h c List.mem_cons_self), hrest]
    rfl

/-! ## The ways to a record -/

namespace RecordBuilder

/-- The builder with several fields set one after another. -/
def setAll (b : RecordBuilder) (pairs : List (String × Cell)) : Except Error RecordBuilder :=
  pairs.foldlM (fun b pair => b.set pair.1 pair.2) b

theorem set_of_has {b : RecordBuilder} {name : String} (h : name ∈ b.schema.names) (value : Cell) :
    b.set name value = .ok ⟨b.schema, Entries.set b.given name value⟩ := by
  have hindex : ∃ i, b.schema.index name = .ok i := by
    obtain ⟨f, hf, rfl⟩ := List.mem_map.1 h
    cases hi : b.schema.index? f.name with
    | some i => exact ⟨i, by rw [Schema.index, hi]⟩
    | none =>
      have hall := List.findIdx?_eq_none_iff.1 hi f hf
      simp at hall
  obtain ⟨i, hi⟩ := hindex
  rw [set, hi]
  rfl

/-- Fields of the schema can be set in any order. -/
theorem setAll_of_has {b : RecordBuilder} {pairs : List (String × Cell)}
    (h : ∀ pair ∈ pairs, pair.1 ∈ b.schema.names) : b.setAll pairs = .ok ⟨b.schema, Entries.setAll b.given pairs⟩ := by
  induction pairs generalizing b with
  | nil => rfl
  | cons pair pairs ih =>
    have hset := set_of_has (h pair List.mem_cons_self) pair.2
    have hrest := ih (b := ⟨b.schema, Entries.set b.given pair.1 pair.2⟩) fun pair' hpair' =>
      h pair' (List.mem_cons_of_mem _ hpair')
    rw [setAll, List.foldlM_cons, hset]
    exact hrest

/-- Under distinct names, every field has the value that it was set to. -/
theorem valueOf_setAll {schema : Schema} {given pairs : List (String × Cell)} {name : String} {value : Cell}
    (hnodup : (pairs.map Prod.fst).Nodup) (h : (name, value) ∈ pairs) :
    valueOf ⟨schema, Entries.setAll given pairs⟩ name = value := by
  rw [valueOf, Entries.get?_setAll_of_mem hnodup h, Option.getD_some]

end RecordBuilder

namespace Record

/-- The record comes of one of the ways to make records of a schema. -/
inductive Obtained (schema : Schema) : Record → Prop where
  | made {given : List (String × Cell)} {r : Record} (h : Record.ofEntries schema given = .ok r) : Obtained schema r
  | built {b : RecordBuilder} {r : Record} (hschema : b.schema = schema) (h : b.build = .ok r) : Obtained schema r
  | read {given : Option ColumnTypes.Given} {row : Cell} {r : Record}
    (h : (Record.ofRow schema given row).outcome = .ok r) : Obtained schema r

/-- The names of the record are those of its schema, in the same order, and the value of each field is in the form
of the field. -/
structure Canonical (r : Record) : Prop where
  names : r.entries.map Prod.fst = r.schema.names
  forms : ∀ f ∈ r.schema.fields, ∃ value, r.get f.name = .ok value ∧ f.HasForm value

/-- The record as a row that is read by name. -/
def row (r : Record) : Cell := .map (r.entries.map fun entry => (.text entry.1, entry.2))

/-- Every way makes the same record of the values of the record. -/
structure Reproduced (r : Record) : Prop where
  made : Record.ofEntries r.schema r.entries = .ok r
  built : ∀ pairs : List (String × Cell), pairs.Perm r.entries →
    ∃ b, (RecordBuilder.ofSchema r.schema).setAll pairs = .ok b ∧ b.build = .ok r
  readByName : Record.ofRow r.schema none r.row = ⟨[], .ok r⟩
  readByPosition : Record.ofRow r.schema none (.list r.values) = ⟨[], .ok r⟩

/-! ## Any record -/

section Ways

variable (r : Record)

theorem canonical : r.Canonical where
  names := r.names_entries
  forms := by
    intro f hf
    rw [fields_eq] at hf
    obtain ⟨c, hc, rfl⟩ := List.mem_map.1 hf
    refine ⟨c.2, ?_, Field.hasForm_of_holds (r.holds_of_mem_fieldValues c hc)⟩
    rw [get, get?, r.get?_of_mem_fieldValues hc]

/-- The entries in any order are the values of the fields for a builder. -/
theorem build_of_perm {pairs : List (String × Cell)} (h : pairs.Perm r.entries) :
    ∃ b, (RecordBuilder.ofSchema r.schema).setAll pairs = .ok b ∧ b.build = .ok r := by
  have hnames : (pairs.map Prod.fst).Perm r.schema.names := by
    rw [← names_entries]
    exact h.map Prod.fst
  have hnodup : (pairs.map Prod.fst).Nodup := hnames.nodup_iff.2 r.schema.nodup
  have hset := RecordBuilder.setAll_of_has (b := .ofSchema r.schema) fun pair hpair =>
    hnames.mem_iff.1 (List.mem_map_of_mem hpair)
  have hvalues : (r.schema.names.map fun name => (name, RecordBuilder.valueOf
      ⟨r.schema, Entries.setAll [] pairs⟩ name)) = r.entries := by
    rw [entries_eq, names_eq, List.map_map, List.map_inj_left]
    intro c hc
    have hmem : (c.1.name, c.2) ∈ pairs := by
      rw [h.mem_iff, entries_eq]
      exact List.mem_map.2 ⟨c, hc, rfl⟩
    exact congrArg (Prod.mk c.1.name) (RecordBuilder.valueOf_setAll hnodup hmem)
  refine ⟨_, hset, ?_⟩
  show Record.ofEntries r.schema (r.schema.names.map fun name => (name, RecordBuilder.valueOf
    ⟨r.schema, Entries.setAll [] pairs⟩ name)) = _
  rw [hvalues, ofEntries_entries]

theorem rowValues_row : rowValues r.schema r.row = .ok r.values := by
  show mapValues r.schema (r.entries.map fun entry => (.text entry.1, entry.2)) = _
  rw [mapValues, values_eq, names_eq]
  refine mapM_of_forall fun c hc => ?_
  rw [Entries.get?_map_text, r.get?_of_mem_fieldValues hc]

theorem rowValues_list : rowValues r.schema (.list r.values) = .ok r.values :=
  rowValues_of_positional (Cell.positional_list r.values) r.conforms.length_eq

/-- A row that gives the values of a record is read as the record. -/
theorem ofRow_of_rowValues {row : Cell} (h : rowValues r.schema row = .ok r.values) :
    Record.ofRow r.schema none row = ⟨[], .ok r⟩ := by
  have htypes : (ColumnTypes.defaults r.schema).types = r.fieldValues.map fun c => c.1.kind.defaultSqlType := by
    rw [ColumnTypes.types, ColumnTypes.defaults, fields_eq, List.map_map, List.map_map]
    rfl
  have hnormal : normalizeAll (ColumnTypes.defaults r.schema).types r.values = ⟨[], .ok r.values⟩ := by
    rw [htypes, values_eq]
    exact normalizeAll_default r.holds_of_mem_fieldValues
  have hentries : Record.ofEntries r.schema (r.schema.names.zip r.values) = .ok r := r.ofEntries_entries
  rw [ofRow, ColumnTypes.forReading, Traced.lift_bind_of_ok rfl, Traced.lift_bind_of_ok h,
    Traced.bind_of_ok (by rw [hnormal]), hnormal, hentries]
  rfl

theorem reproduced : r.Reproduced where
  made := r.ofEntries_entries
  built _ h := r.build_of_perm h
  readByName := r.ofRow_of_rowValues r.rowValues_row
  readByPosition := r.ofRow_of_rowValues r.rowValues_list

end Ways

theorem schema_of_obtained {schema : Schema} {r : Record} (h : Obtained schema r) : r.schema = schema := by
  cases h with
  | made h => exact schema_of_ofEntries h
  | built hschema h => exact (schema_of_ofEntries h).trans hschema
  | read h => exact schema_of_ofRow h

/-- **Every record is canonical and is made again of itself.** Whichever way it came about, its names are those of
the schema in the same order and its values are in the forms of their fields. A table of its values, a builder that
is given them in any order and a row that has them, by name or by position, all make the same record. -/
theorem reproduced_of_obtained {schema : Schema} {r : Record} (h : Obtained schema r) :
    r.schema = schema ∧ r.Canonical ∧ r.Reproduced :=
  ⟨schema_of_obtained h, r.canonical, r.reproduced⟩

theorem reproduced_of_obtained_note : Obtained noteSchema (note "a") ∧ (note "a").Canonical ∧ (note "a").Reproduced :=
  have hmade : Record.ofEntries noteSchema [("text", .text "a"), ("id", .int 7)] = .ok (note "a") := rfl
  have h : Obtained noteSchema (note "a") := .made hmade
  ⟨h, (reproduced_of_obtained h).2⟩

end Record

end TypedRows
