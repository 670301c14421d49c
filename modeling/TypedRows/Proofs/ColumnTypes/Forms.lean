import TypedRows.Proofs.Record.Handles
import TypedRows.Proofs.SqlType.TypeName
/-!
# Forms of column types

The types of the columns may be given as a table with the names of the fields, as descriptions of columns with these
names, or as a list of codes, each of which is a type, its number or its name in any spelling. `ofGiven` reads all forms
of the same types as one table (`ofGiven_of_form`), and nothing else of what was given is used in reading a row or
writing a record. What does not go with the schema is refused before anything else is done.

Main statement: `ColumnTypes.forms_agree`.
-/

namespace TypedRows

/-! ## Codes of types -/

/-- The cell means the type: it is the type itself, its number or its name in any spelling. -/
inductive SqlType.Code (t : SqlType) : Cell → Prop
  | itself : Code t (.sqlType t)
  | number : Code t (.int t.code)
  | name {text : String} : t.SpelledBy text → Code t (.text text)

theorem SqlType.coerce_of_code {t : SqlType} {cell : Cell} (h : t.Code cell) (column : Option String) :
    SqlType.coerce cell column = .ok t := by
  have hcell : SqlType.ofCell? cell = some t := by
    cases h with
    | itself => rfl
    | number => simp only [SqlType.ofCell?, Cell.relaxed, SqlType.ofCode?_code]
    | name hspelled => simp only [SqlType.ofCell?, Cell.relaxed, SqlType.ofTypeName?_of_spelledBy hspelled]
  rw [SqlType.coerce, hcell]

namespace ColumnTypes

variable {schema : Schema} {types : List SqlType}

/-! ## Aligned types -/

/-- The types under the names of the fields. -/
def named (schema : Schema) (types : List SqlType) : ColumnTypes := ⟨(schema.names.map some).zip types⟩

/-- The forms in which types for the fields of a schema may be given. -/
inductive Form (schema : Schema) (types : List SqlType) : Given → Prop
  | table : Form schema types (.table (named schema types))
  | columns {columns : List Column} : columns.map ColumnOf.name = schema.names.map some →
      columns.map ColumnOf.sqlType = types → Form schema types (.value (.list (columns.map Cell.column)))
  | codes {codes : List Cell} : List.Forall₂ SqlType.Code types codes → Form schema types (.value (.list codes))

theorem validate_named (h : types.length = schema.size) : (named schema types).validate schema = .ok () := by
  have hlength : (schema.names.map some).length ≤ types.length := by
    rw [List.length_map, Schema.names, List.length_map, h, Schema.size]
  rw [validate_eq_ok_iff, names, named]
  exact List.map_fst_zip hlength

/-- A list that does not begin with the description of a column is read as codes. -/
theorem read_list {codes : List Cell} (h : ∀ c, codes.head? ≠ some (.column c)) :
    read schema (.value (.list codes)) = forSchema schema (.list codes) := by
  -- The match on the first item is left for its second case because of `h`.
  simp only [read, firstItem?_list, bind, Except.bind]

theorem ofPairs_zip {names : List (Option String)} {codes : List Cell} (h : List.Forall₂ SqlType.Code types codes) :
    ofPairs (names.zip codes) = .ok ⟨names.zip types⟩ := by
  have hentries : (names.zip codes).mapM (fun pair => do return (pair.1, ← SqlType.coerce pair.2 pair.1)) =
      (.ok (names.zip types) : Except Error (List (Option String × SqlType))) := by
    rw [mapM_ok_iff_forall₂]
    induction h generalizing names with
    | nil => simp
    | cons hcode _ ih =>
      cases names with
      | nil => simp
      | cons name names =>
        refine .cons ?_ ih
        simp [SqlType.coerce_of_code hcode, bind, Except.bind, pure, Except.pure]
  rw [ofPairs, hentries]
  rfl

theorem forSchema_list {codes : List Cell} :
    forSchema schema (.list codes) =
      if codes.length ≠ schema.size then .error (.mismatch (.typeCount schema.name schema.size codes.length))
      else ofPairs ((schema.names.map some).zip codes) := by
  rfl

/-- Codes are no descriptions of columns. -/
theorem head?_ne_column_of_codes {codes : List Cell} (h : List.Forall₂ SqlType.Code types codes) (c : Column) :
    codes.head? ≠ some (.column c) := by
  cases h with
  | nil => simp
  | cons hcode _ =>
    intro hfirst
    cases hfirst
    cases hcode

theorem read_codes (h : types.length = schema.size) {codes : List Cell} (hcodes : List.Forall₂ SqlType.Code types codes) :
    read schema (.value (.list codes)) = .ok (named schema types) := by
  have hlength : codes.length = schema.size := hcodes.length_eq.symm.trans h
  rw [read_list (head?_ne_column_of_codes hcodes), forSchema_list, if_neg (not_not.2 hlength), ofPairs_zip hcodes, named]

/-- Columns with the names of the fields give their types under these names. -/
theorem ofColumns_eq_named {columns : List Column} (hnames : columns.map ColumnOf.name = schema.names.map some) :
    ofColumns columns = named schema (columns.map ColumnOf.sqlType) := by
  rw [named, ← hnames, List.zip_map', ofColumns]

/-- **All forms of the same types are read as one table.** -/
theorem ofGiven_of_form (h : types.length = schema.size) {given : Given} (hform : Form schema types given) :
    ofGiven schema given = .ok (named schema types) := by
  have hread : read schema given = .ok (named schema types) := by
    cases hform with
    | table => rfl
    | columns hnames htypes =>
      subst htypes
      rw [read_columns (by simpa [Schema.size] using h.symm), ofColumns_eq_named hnames]
    | codes hcodes => exact read_codes h hcodes
  simp only [ofGiven, hread, validate_named h, bind, Except.bind, pure, Except.pure]

/-! ## Types that are not aligned -/

/-- Column types that do not go with the schema: their names are not those of the fields in the same order, or there are
fewer or more codes than fields. -/
inductive Misaligned (schema : Schema) : Given → Prop
  | table {t : ColumnTypes} : t.names ≠ schema.names.map some → Misaligned schema (.table t)
  | columns {columns : List Column} : columns.map ColumnOf.name ≠ schema.names.map some →
      Misaligned schema (.value (.list (columns.map Cell.column)))
  | codes {codes : List Cell} : (∀ c, codes.head? ≠ some (.column c)) → codes.length ≠ schema.size →
      Misaligned schema (.value (.list codes))

/-- A table with other names is refused for its size or for a name. -/
theorem validate_of_names_ne {t : ColumnTypes} (h : t.names ≠ schema.names.map some) :
    ∃ m, t.validate schema = .error (.mismatch m) := by
  cases hvalid : t.validate schema with
  | ok u => exact absurd (validate_eq_ok_iff.1 hvalid) h
  | error e =>
    unfold validate at hvalid
    split at hvalid
    · cases hvalid
      exact ⟨_, rfl⟩
    · split at hvalid
      · cases hvalid
        exact ⟨_, rfl⟩
      · cases hvalid

theorem ofGiven_of_misaligned {given : Given} (h : Misaligned schema given) :
    ∃ m, ofGiven schema given = .error (.mismatch m) := by
  have hsome : ∀ t : ColumnTypes, read schema given = .ok t → t.names ≠ schema.names.map some →
      ∃ m, ofGiven schema given = .error (.mismatch m) := by
    intro t hread hnames
    obtain ⟨m, hm⟩ := validate_of_names_ne hnames
    exact ⟨m, by simp only [ofGiven, hread, hm, bind, Except.bind]⟩
  have hcount : ∀ codes : List Cell, given = .value (.list codes) → (∀ c, codes.head? ≠ some (.column c)) →
      codes.length ≠ schema.size → ∃ m, ofGiven schema given = .error (.mismatch m) := by
    rintro codes rfl hfirst hlength
    refine ⟨.typeCount schema.name schema.size codes.length, ?_⟩
    simp only [ofGiven, read_list hfirst, forSchema_list, if_pos hlength, bind, Except.bind]
  cases h with
  | table hnames => exact hsome _ rfl hnames
  | @columns columns hnames =>
    cases columns with
    | nil =>
      -- An empty list of columns is read as an empty list of codes.
      refine hcount [] rfl (by simp) ?_
      intro hsize
      refine hnames ?_
      rw [List.eq_nil_of_length_eq_zero (l := schema.names) (by simpa [Schema.names, Schema.size] using hsize.symm)]
      rfl
    | cons c columns =>
      refine hsome (ofColumns (c :: columns)) (read_columns_cons schema c columns) ?_
      rw [names_ofColumns]
      exact hnames
  | codes hfirst hlength => exact hcount _ rfl hfirst hlength

/-! ## Reading and writing -/

/-- **Column types are interchangeable in all their forms**, for reading a row and for writing a record, calls of
handles and earlier bindings included. Column types that do not go with the schema are refused before a handle is
called or a value is bound. -/
theorem forms_agree (schema : Schema) (types : List SqlType) (h : types.length = schema.size) :
    (∀ given given', Form schema types given → Form schema types given' →
      (∀ row, Record.ofRow schema (some given) row = Record.ofRow schema (some given') row) ∧
        ∀ (s : Statement) r, s.write r schema given = s.write r schema given') ∧
      (∀ given, Form schema types given → ofGiven schema given = .ok (named schema types)) ∧
      ∀ given, Misaligned schema given → ∃ m,
        (∀ row, Record.ofRow schema (some given) row = ⟨[], .error (.mismatch m)⟩) ∧
          ∀ (s : Statement) r, s.write r schema given = (s, .error (.mismatch m)) := by
  refine ⟨?_, fun given hform => ofGiven_of_form h hform, ?_⟩
  · intro given given' hform hform'
    have hsame : ofGiven schema given = ofGiven schema given' :=
      (ofGiven_of_form h hform).trans (ofGiven_of_form h hform').symm
    constructor
    · intro row
      rw [Record.ofRow, Record.ofRow, forReading, forReading, hsame]
    · intro s r
      rw [Statement.write, Statement.write, hsame]
  · intro given hmisaligned
    obtain ⟨m, hm⟩ := ofGiven_of_misaligned hmisaligned
    refine ⟨m, fun row => ?_, fun s r => ?_⟩
    · exact Traced.lift_bind_of_error hm
    · rw [Statement.write, hm]

/-- The columns of notes as descriptions, and as a name in mixed case with a number beside it. -/
theorem forms_agree_note :
    [SqlType.tinyint, .clob].length = noteSchema.size ∧
      Form noteSchema [.tinyint, .clob] (.value (.list (noteColumns.map Cell.column))) ∧
      Form noteSchema [.tinyint, .clob] (.value (.list [.text "TinyInt(3)", .int 2005])) ∧
      (∀ row, Record.ofRow noteSchema (some (.value (.list (noteColumns.map Cell.column)))) row =
        Record.ofRow noteSchema (some (.value (.list [.text "TinyInt(3)", .int 2005]))) row) ∧
      Misaligned noteSchema (.value (.list [.int 2005])) := by
  have hcolumns : Form noteSchema [.tinyint, .clob] (.value (.list (noteColumns.map Cell.column))) :=
    .columns rfl rfl
  have hspelled : SqlType.tinyint.SpelledBy "TinyInt(3)" :=
    ⟨"TinyInt", "(3)", rfl, by decide, .inr ⟨"3)", rfl⟩⟩
  have hcodes : Form noteSchema [.tinyint, .clob] (.value (.list [.text "TinyInt(3)", .int 2005])) :=
    .codes (.cons (.name hspelled) (.cons .number .nil))
  refine ⟨rfl, hcolumns, hcodes, ?_, .codes (by simp) (by decide)⟩
  exact ((forms_agree noteSchema [.tinyint, .clob] rfl).1 _ _ hcolumns hcodes).1

end ColumnTypes

end TypedRows
