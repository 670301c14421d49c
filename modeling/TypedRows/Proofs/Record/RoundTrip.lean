import TypedRows.Proofs.Cell.Normalization
import TypedRows.Proofs.Statement.Writing
/-!
# Records that are written and read back

What comes back of a value is a projection of the value (`Kind.returned`): line ends of large texts are unified,
single precision is rounded to, and a count of milliseconds keeps its day or what it has beyond its day. Every
other value comes back as it is. This holds for every dialect: that SQLite takes dates and times as text makes
no difference, because the text is read as what it was written from (`normalize_sent`).

Main statement: `Record.ofRow_of_write`.
-/

namespace TypedRows

/-! ## What comes back -/

/-- What a column of dates, times or instants keeps of a count of milliseconds. -/
def SqlType.keptMillis (type : SqlType) (millis : Int) : Int :=
  match type with
  | .date => millis - millis % millisPerDay
  | .time => millis % millisPerDay
  | _ => millis

/-- What comes back of a value of a field of the kind that was written to a column of the type. A type code,
which is an integer, comes back as its number. -/
def Kind.returned (kind : Kind) (type : SqlType) (value : Cell) : Cell :=
  match kind, value with
  | .string, .text s => .text (if type = .clob ∨ type = .nclob then Text.joinLines s else s)
  | .float32, .float x => .float x.narrow
  | .int32, value => (value.asInt?.map Cell.int).getD value
  | .int64, value => (value.asInt?.map fun millis => Cell.int (type.keptMillis millis)).getD value
  | _, value => value

def Record.returned (r : Record) (types : ColumnTypes) : List Cell :=
  (r.columns types).map fun c => c.1.kind.returned c.2.1 c.2.2

/-- The kind of every field is the one that goes with the type of its column. -/
def ColumnTypes.GivesKinds (t : ColumnTypes) (schema : Schema) : Prop :=
  t.types.map Kind.ofSqlType? = schema.fields.map fun f => some f.kind

instance (t : ColumnTypes) (schema : Schema) : Decidable (t.GivesKinds schema) :=
  inferInstanceAs (Decidable (_ = _))

theorem ColumnTypes.GivesKinds.kind_of_mem {r : Record} {t : ColumnTypes} (h : t.GivesKinds r.schema)
    (ht : t.validate r.schema = .ok ()) : ∀ c ∈ r.columns t, Kind.ofSqlType? c.2.1 = some c.1.kind := by
  obtain ⟨hfields, htypes, -⟩ := Record.columns_parts ht
  rw [ColumnTypes.GivesKinds, ← hfields, ← htypes, List.map_map, List.map_map] at h
  exact List.map_inj_left.1 h

/-! ## One column -/

section Columns

variable {type : SqlType} {value : Cell} {i : Int}

/-- The part of a count that a column keeps is in the range that the count was in. -/
theorem keptMillis_mem (h : minEpochMillis ≤ i ∧ i ≤ maxEpochMillis) :
    minEpochMillis ≤ type.keptMillis i ∧ type.keptMillis i ≤ maxEpochMillis := by
  unfold minEpochMillis maxEpochMillis at *
  unfold SqlType.keptMillis millisPerDay
  split <;> omega

theorem keptMillis_of_not_temporal (h : type.isTemporal = false) : type.keptMillis i = i := by
  cases type <;> first | (cases h; done) | rfl

theorem returned_int32 (h : value.asInt? = some i) : Kind.returned .int32 type value = .int i := by
  simp [Kind.returned, h]

theorem returned_int64 (h : value.asInt? = some i) :
    Kind.returned .int64 type value = .int (type.keptMillis i) := by
  simp [Kind.returned, h]

theorem instant_mem_of_rangeFault? (hrange : Kind.rangeFault? .int64 type value = none)
    (h : value.asInt? = some i)
    (ht : type.isTemporal = true) : minEpochMillis ≤ i ∧ i ≤ maxEpochMillis :=
  (Kind.rangeFault?_eq_none_iff.1 hrange).2 rfl i h ht

/-- A value of which the range was checked comes back as a value of the kind. -/
theorem Kind.isCanonical_returned {kind : Kind} (hcan : kind.isCanonical value = true)
    (hrange : kind.rangeFault? type value = none) :
    (kind.returned type value).isNull = value.isNull ∧ kind.isCanonical (kind.returned type value) = true := by
  cases kind with
  | boolean => obtain ⟨b, rfl⟩ := isCanonical_boolean.1 hcan; exact ⟨rfl, rfl⟩
  | int32 =>
    obtain ⟨i, hi, hmem⟩ := isCanonical_int32.1 hcan
    rw [returned_int32 hi, Cell.isNull_of_asInt? hi]
    exact ⟨rfl, isCanonical_int32.2 ⟨i, rfl, hmem⟩⟩
  | int64 =>
    obtain ⟨i, hi, hmem⟩ := isCanonical_int64.1 hcan
    rw [returned_int64 hi, Cell.isNull_of_asInt? hi]
    refine ⟨rfl, isCanonical_int64.2 ⟨_, rfl, ?_⟩⟩
    cases ht : type.isTemporal with
    | false => rwa [keptMillis_of_not_temporal ht]
    | true =>
      have hkept := @keptMillis_mem type i (instant_mem_of_rangeFault? hrange hi ht)
      unfold minEpochMillis maxEpochMillis at hkept
      unfold int64Range
      omega
  | float32 => obtain ⟨x, rfl⟩ := isCanonical_float32.1 hcan; exact ⟨rfl, rfl⟩
  | string => obtain ⟨s, rfl⟩ := isCanonical_string.1 hcan; exact ⟨rfl, rfl⟩
  | float64 | bytes | null | array | map | record | union => exact ⟨rfl, hcan⟩

theorem Kind.returned_null (kind : Kind) : kind.returned type .null = .null := by
  cases kind <;> rfl

theorem Field.holds_returned {f : Field} (hv : f.holds value = true)
    (hrange : f.kind.rangeFault? type value = none) :
    f.holds (f.kind.returned type value) = true := by
  cases hnull : value.isNull with
  | true =>
    obtain rfl := Cell.eq_null_of_isNull hnull
    rwa [Kind.returned_null]
  | false =>
    obtain ⟨hnull', hcan⟩ := Kind.isCanonical_returned (Field.isCanonical_of_holds hv hnull) hrange
    exact Field.holds_of_isCanonical (hnull'.trans hnull) hcan

/-! ## One column through the driver -/

/-- A cell that is neither a large object nor a date or time is sent as it is. -/
theorem Statement.sent_of_plain {s : Statement} {cell : Cell} (hb : ∀ b, cell ≠ .blob b)
    (ht : Statement.temporalText cell = cell) : s.sent cell = cell := by
  unfold Statement.sent
  split
  · rename_i b
    exact absurd rfl (hb b)
  · split
    · exact ht
    · rfl

/-- A date, a time or an instant is sent as it is or as its text. -/
theorem Statement.sent_temporal (s : Statement) (cell : Cell) (hb : ∀ b, cell ≠ .blob b) :
    s.sent cell = cell ∨ s.sent cell = Statement.temporalText cell := by
  unfold Statement.sent
  split
  · rename_i b
    exact absurd rfl (hb b)
  · split
    · exact Or.inr rfl
    · exact Or.inl rfl

/-- It does not matter whether a date, a time or an instant is sent as it is or as its text. -/
theorem normalize_sent_of_hasTemporal (s : Statement) {cell : Cell} (h : type.HasTemporal cell) :
    ((s.sent cell).normalize type).outcome = cell.temporalMillis := by
  have hb : ∀ b, cell ≠ .blob b := by cases h <;> simp
  have hcell := (Cell.normalize_of_hasTemporal h).2
  rcases s.sent_temporal cell hb with hsent | hsent
  · rw [hsent, hcell]
  · obtain ⟨written, hwritten, hsame⟩ := Cell.normalize_temporalText h
    rw [hsent, hwritten, hsame, hcell]

theorem normalize_sent_date (s : Statement) (d : Date) :
    ((s.sent (.date d)).normalize .date).outcome = .ok (.int (DateTime.ofDate d).epochMillis) :=
  normalize_sent_of_hasTemporal s (.date (.inl rfl) d)

theorem normalize_sent_time (s : Statement) (t : TimeOfDay) :
    ((s.sent (.time t none)).normalize .time).outcome = .ok (.int (t.millis none)) :=
  normalize_sent_of_hasTemporal s (.time rfl t IsoReader.wholeMinutes_none)

theorem normalize_sent_datetime (s : Statement) (d : DateTime) :
    ((s.sent (.datetime d none)).normalize .timestamp).outcome = .ok (.int d.epochMillis) :=
  normalize_sent_of_hasTemporal s (.datetime (.inr rfl) d IsoReader.wholeMinutes_none)

/-- A count of milliseconds goes to the driver as a date, a time or an instant, and comes back. -/
theorem normalize_sent_temporal (s : Statement) (ht : type.isTemporal = true) (h : value.asInt? = some i)
    (hmem : minEpochMillis ≤ i ∧ i ≤ maxEpochMillis) :
    ((s.sent ((Kind.setter .int64 type).stored value)).normalize type).outcome =
      .ok (.int (type.keptMillis i)) := by
  obtain ⟨d, hd, -⟩ := ofEpochMillis_of_mem h hmem
  have hcount : DateTime.ofEpochMicros? (i * 1000) = some d := (instant?_of_asInt? h).symm.trans hd
  cases type with
  | date =>
    rw [show (Kind.setter .int64 .date).stored value = .date d.date by simp [Kind.setter, Setter.stored, hd],
      normalize_sent_date, DateTime.epochMillis_date hcount]
    rfl
  | time =>
    rw [show (Kind.setter .int64 .time).stored value = .time d.time none by simp [Kind.setter, Setter.stored, hd],
      normalize_sent_time, DateTime.millis_time hcount]
    rfl
  | timestamp =>
    rw [show (Kind.setter .int64 .timestamp).stored value = .datetime d none by
        simp [Kind.setter, Setter.stored, hd],
      normalize_sent_datetime, DateTime.epochMillis_of_ofEpochMicros? hcount]
    rfl
  | _ => cases ht

theorem stored_int32 (h : value.asInt? = some i) : (Kind.setter .int32 type).stored value = .int i := by
  cases hn : type.isNarrowInteger <;> simp [Kind.setter, hn, Setter.stored, h]

/-- A value other than null goes through the driver as its kind and type say, whatever the dialect. -/
theorem Kind.normalize_sent {kind : Kind} (s : Statement) (hkind : Kind.ofSqlType? type = some kind)
    (hcan : kind.isCanonical value = true) (hrange : kind.rangeFault? type value = none) :
    ((s.sent ((kind.setter type).stored value)).normalize type).outcome = .ok (kind.returned type value) := by
  have hplain : ∀ cell : Cell, (∀ b, cell ≠ .blob b) → Statement.temporalText cell = cell → s.sent cell = cell :=
    fun cell hb ht => Statement.sent_of_plain hb ht
  cases kind with
  | null => cases hcan
  | boolean =>
    obtain ⟨b, rfl⟩ := isCanonical_boolean.1 hcan
    rw [show (Kind.setter .boolean type).stored (.bool b) = .bool b from rfl, hplain _ (by simp) rfl]
    exact Cell.normalize_bool hkind b
  | int32 =>
    obtain ⟨i, hi, -⟩ := isCanonical_int32.1 hcan
    rw [stored_int32 hi, hplain _ (by simp) rfl, returned_int32 hi]
    exact Cell.normalize_int (Or.inl hkind) rfl
  | int64 =>
    obtain ⟨i, hi, -⟩ := isCanonical_int64.1 hcan
    rw [returned_int64 hi]
    -- Only dates, times and instants depend on the dialect.
    cases ht : type.isTemporal with
    | true => exact normalize_sent_temporal s ht hi (instant_mem_of_rangeFault? hrange hi ht)
    | false =>
      have hstored : (Kind.setter .int64 type).stored value = .int i := by
        simp [setter_int64 ht, Setter.stored, hi]
      rw [hstored, hplain _ (by simp) rfl, keptMillis_of_not_temporal ht]
      exact Cell.normalize_int (Or.inr hkind) rfl
  | float32 =>
    obtain ⟨x, rfl⟩ := isCanonical_float32.1 hcan
    rw [show (Kind.setter .float32 type).stored (.float x) = .float x.narrow from rfl, hplain _ (by simp) rfl]
    exact Cell.normalize_float (Or.inl hkind) x.narrow
  | float64 =>
    obtain ⟨x, rfl⟩ := isCanonical_float64.1 hcan
    rw [show (Kind.setter .float64 type).stored (.float x) = .float x from rfl, hplain _ (by simp) rfl]
    exact Cell.normalize_float (Or.inr hkind) x
  | string =>
    obtain ⟨written, rfl⟩ := isCanonical_string.1 hcan
    rw [show (Kind.setter .string type).stored (.text written) = .text written from rfl, hplain _ (by simp) rfl]
    exact Cell.normalize_text hkind written
  | bytes =>
    obtain ⟨data, rfl⟩ := isCanonical_bytes.1 hcan
    have hsent : s.sent ((Kind.setter .bytes type).stored (.bytes .frozen data)) = .bytes .frozen data := by
      by_cases hb : type = .blob
      · simp [Kind.setter, hb, Setter.stored, Statement.sent]
      · rw [show (Kind.setter .bytes type).stored (.bytes .frozen data) = .bytes .frozen data by
          simp [Kind.setter, hb, Setter.stored]]
        exact hplain _ (by simp) rfl
    rw [hsent]
    exact Cell.normalize_bytes hkind .frozen data
  | array | map | record | union => cases type <;> cases hkind

/-- **One column comes back as its projection**, nulls included. -/
theorem normalize_sent {f : Field} (s : Statement) (hkind : Kind.ofSqlType? type = some f.kind)
    (hv : f.holds value = true) (hrange : f.kind.rangeFault? type value = none) :
    ((s.sent (f.stored type value)).normalize type).outcome = .ok (f.kind.returned type value) := by
  cases hnull : value.isNull with
  | true =>
    obtain rfl := Cell.eq_null_of_isNull hnull
    rw [Kind.returned_null, Field.stored, if_pos hnull, Statement.sent_of_plain (by simp) rfl]
    exact Cell.normalize_null type
  | false =>
    rw [Field.stored, hnull, if_neg (by decide)]
    exact Kind.normalize_sent s hkind (Field.isCanonical_of_holds hv hnull) hrange

end Columns

/-! ## Whole records -/

/-- The columns of a record that was written have values in the ranges of their columns. -/
theorem rangeFault?_of_writable {r : Record} {t : ColumnTypes} {count : Int}
    (h : ∀ i c, (r.columns t)[i]? = some c → Writable count (i + 1) c.1 c.2.1 c.2.2) :
    ∀ c ∈ r.columns t, c.1.kind.rangeFault? c.2.1 c.2.2 = none := by
  intro c hc
  obtain ⟨i, hi⟩ := List.getElem?_of_mem hc
  exact (h i c hi).rangeFault?_eq_none

/-- The parameters of a record are read as the projections of its values. -/
theorem Record.ofRow_of_sent {r : Record} {t : ColumnTypes} (s : Statement) (ht : t.validate r.schema = .ok ())
    (hk : t.GivesKinds r.schema) (hrange : ∀ c ∈ r.columns t, c.1.kind.rangeFault? c.2.1 c.2.2 = none) :
    ∃ r', (Record.ofRow r.schema (some (.table t))
        (.tuple ((r.columns t).map fun c => s.sent (c.1.stored c.2.1 c.2.2)))).outcome = .ok r' ∧
      r'.schema = r.schema ∧ r'.values = r.returned t := by
  obtain ⟨hfields, htypes, -⟩ := Record.columns_parts ht
  have hkinds := hk.kind_of_mem ht
  have hv := r.holds_of_mem_columns t
  refine Record.exists_ofRow hfields.symm (ColumnTypes.ofGiven_table ht) htypes.symm
    (rowValues_of_positional (Cell.positional_tuple _) ?_) (fun c hc => ?_) (fun c hc => ?_)
  · rw [List.length_map, Record.length_columns ht]
  · exact normalize_sent s (hkinds c hc) (hv c hc) (hrange c hc)
  · exact Field.holds_returned (hv c hc) (hrange c hc)

/-- **What is written can be read back**, and what comes back is the projection of each value, for every
dialect. -/
theorem Record.ofRow_of_write (sql : String) (dialect : Option String) (r : Record) {schema : Schema}
    {t : ColumnTypes} {s : Statement} (hr : r.schema = schema) (ht : t.validate schema = .ok ())
    (hk : t.GivesKinds schema)
    (hw : (Statement.ofSql sql schema.size dialect).write r schema (.table t) = (s, .ok ())) :
    ∃ parameters r', s.parameters = .ok parameters ∧
      (Record.ofRow schema (some (.table t)) (.tuple parameters)).outcome = .ok r' ∧ r'.schema = schema ∧
      r'.values = r.returned t := by
  subst hr
  obtain ⟨hwritable, hrun⟩ := Statement.write_ok ht (congrArg Prod.snd hw)
  have hs : s = (Statement.ofSql sql r.schema.size dialect).append (r.bindings t) :=
    (Prod.mk.inj (hw.symm.trans hrun)).1
  have hparameters := Statement.parameters_of_bindings sql dialect (r.columns t)
  rw [Record.length_columns ht] at hparameters
  obtain ⟨r', hread, hschema, hvalues⟩ :=
    Record.ofRow_of_sent (Statement.ofSql sql r.schema.size dialect) ht hk (rangeFault?_of_writable hwritable)
  exact ⟨_, r', by rw [hs]; exact hparameters, hread, hschema, hvalues⟩

theorem Record.ofRow_of_write_note :
    ∃ parameters r',
      ((Statement.ofSql "" 2 (some "sqlite")).write (note "a\r\n") noteSchema (.table noteTypes)).1.parameters =
        .ok parameters ∧
      (Record.ofRow noteSchema (some (.table noteTypes)) (.tuple parameters)).outcome = .ok r' ∧
      r'.schema = noteSchema ∧ r'.values = (note "a\r\n").returned noteTypes :=
  Record.ofRow_of_write "" (some "sqlite") (note "a\r\n") rfl rfl (by decide) rfl

end TypedRows
