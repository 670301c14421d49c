import TypedRows.Normalization
import TypedRows.Proofs.Calendar.EpochMillis
import TypedRows.Proofs.Calendar.IsoText
import TypedRows.Statement
/-!
# What normalization makes of a cell

One lemma for each form in which a value of a column can arrive. A date, a time and an instant are normalized
to the same count whether they arrive as such or as the text that writes them (`Cell.normalize_temporalText`).
-/

namespace TypedRows

/-- The dates, times and instants of a column of a type, with the offsets that ISO text can hold. -/
inductive SqlType.HasTemporal (type : SqlType) : Cell → Prop where
  | date (htype : type = .date ∨ type = .timestamp) (d : Date) : HasTemporal type (.date d)
  | datetime (htype : type = .date ∨ type = .timestamp) (d : DateTime) {offset : Option Int}
    (hoffset : IsoReader.WholeMinutes offset) : HasTemporal type (.datetime d offset)
  | time (htype : type = .time) (t : TimeOfDay) {offset : Option Int} (hoffset : IsoReader.WholeMinutes offset) :
    HasTemporal type (.time t offset)

namespace Cell

/-! ## Forms that a record holds already -/

theorem normalize_null (type : SqlType) : (Cell.null.normalize type).outcome = .ok .null := rfl

theorem normalize_text {type : SqlType} (h : Kind.ofSqlType? type = some .string) (s : String) :
    ((Cell.text s).normalize type).outcome =
      .ok (.text (if type = .clob ∨ type = .nclob then Text.joinLines s else s)) := by
  cases type <;> first | (cases h; done) | rfl

theorem normalize_bool {type : SqlType} (h : Kind.ofSqlType? type = some .boolean) (b : Bool) :
    ((Cell.bool b).normalize type).outcome = .ok (.bool b) := by
  cases type <;> first | (cases h; done) | rfl

theorem normalize_float {type : SqlType}
    (h : Kind.ofSqlType? type = some .float32 ∨ Kind.ofSqlType? type = some .float64) (x : Double) :
    ((Cell.float x).normalize type).outcome = .ok (.float x) := by
  cases type <;> first | ((rcases h with h | h <;> cases h); done) | rfl

theorem normalize_bytes {type : SqlType} (h : Kind.ofSqlType? type = some .bytes) (form : BufferForm)
    (data : Bytes) : ((Cell.bytes form data).normalize type).outcome = .ok (.bytes .frozen data) := by
  cases type <;> first | (cases h; done) | rfl

/-- An integer of a column of integers, dates, times or instants is left as it is. -/
theorem normalize_int {type : SqlType}
    (h : Kind.ofSqlType? type = some .int32 ∨ Kind.ofSqlType? type = some .int64) {cell : Cell} {i : Int}
    (hi : cell.asInt? = some i) : (cell.normalize type).outcome = .ok cell := by
  cases cell <;> simp [asInt?] at hi <;> cases type <;> first | ((rcases h with h | h <;> cases h); done) | rfl

/-! ## Dates, times and instants -/

theorem normalize_temporal {type : SqlType} (h : type.isTemporal = true) {cell : Cell}
    (hbox : cell.unboxed = cell) (hnull : cell.isNull = false) :
    (cell.normalize type).outcome = cell.toEpochMillis type := by
  unfold normalize
  rw [hbox, hnull]
  cases type <;> first | (cases h; done) | rfl

theorem toEpochMillis_of_asText? {type : SqlType} {cell : Cell} (h : cell.asText? = none) :
    cell.toEpochMillis type = cell.temporalMillis := by
  rw [toEpochMillis, h]

theorem toEpochMillis_text {type : SqlType} {written : String} {cell : Cell}
    (h : readTemporal type written (.text written) = .ok cell) :
    (Cell.text written).toEpochMillis type = cell.temporalMillis := by
  show (readTemporal type written (.text written) >>= temporalMillis) = _
  rw [h]
  rfl

/-- Text is read as an instant in every column but those of times. -/
theorem readTemporal_of_ne_time {type : SqlType} {written : String} {d : DateTime} {offset : Option Int}
    (htype : type ≠ .time) (hread : IsoReader.readDateTime written = .ok (d, offset)) (given : Cell) :
    readTemporal type written given = .ok (.datetime d offset) := by
  simp [readTemporal, htype, hread, Except.map]

theorem readTemporal_time {written : String} {t : TimeOfDay} {offset : Option Int}
    (hread : IsoReader.readTime written = .ok (t, offset)) (given : Cell) :
    readTemporal .time written given = .ok (.time t offset) := by
  simp [readTemporal, hread, Except.map]

section Temporal

variable {type : SqlType} {value : Cell}

/-- The milliseconds that a date, a time or an instant counts. -/
inductive Counts : Cell → Int → Prop where
  | date (d : Date) : Counts (.date d) (DateTime.ofDate d).epochMillis
  | time (t : TimeOfDay) (offset : Option Int) : Counts (.time t offset) (t.millis offset)
  | naive (d : DateTime) : Counts (.datetime d none) d.epochMillis
  | aware {d instant : DateTime} {offset : Int} (huniversal : d.toUniversal? offset = some instant) :
    Counts (.datetime d (some offset)) instant.epochMillis

theorem Counts.temporalMillis {m : Int} (h : value.Counts m) : value.temporalMillis = .ok (.int m) := by
  cases h with
  | date | time | naive => rfl
  | aware huniversal => simp only [Cell.temporalMillis, huniversal]

theorem Counts.normalize {m : Int} (htype : type.isTemporal = true) (h : value.Counts m) :
    (value.normalize type).outcome = .ok (.int m) := by
  have hform : value.unboxed = value ∧ value.isNull = false ∧ value.asText? = none := by
    cases h <;> exact ⟨rfl, rfl, rfl⟩
  obtain ⟨hbox, hnull, htext⟩ := hform
  rw [normalize_temporal htype hbox hnull, toEpochMillis_of_asText? htext, h.temporalMillis]

/-- An instant that leaves the calendar on the way to universal time counts nothing. -/
theorem temporalMillis_of_outside {d : DateTime} {offset : Int} (h : d.toUniversal? offset = none) :
    (Cell.datetime d (some offset)).temporalMillis = failOverflow .calendar := by
  simp only [temporalMillis, h]

/-- What is read from the text of a value counts as many milliseconds as the value. -/
theorem exists_readTemporal (h : type.HasTemporal value) :
    ∃ written read, Statement.temporalText value = .text written ∧
      readTemporal type written (.text written) = .ok read ∧ read.temporalMillis = value.temporalMillis := by
  cases h with
  | date htype d =>
    have hdated : type ≠ .time := by rcases htype with rfl | rfl <;> simp
    exact ⟨d.isoText, _, rfl, readTemporal_of_ne_time hdated (IsoReader.readDateTime_date_isoText d) _, rfl⟩
  | datetime htype d hoffset =>
    have hdated : type ≠ .time := by rcases htype with rfl | rfl <;> simp
    exact ⟨_, _, rfl, readTemporal_of_ne_time hdated (IsoReader.readDateTime_isoText d hoffset) _, rfl⟩
  | time htype t hoffset =>
    subst htype
    exact ⟨_, _, rfl, readTemporal_time (IsoReader.readTime_isoText t hoffset) _, rfl⟩

/-- A date, a time or an instant is normalized to its count. -/
theorem normalize_of_hasTemporal (h : type.HasTemporal value) :
    type.isTemporal = true ∧ (value.normalize type).outcome = value.temporalMillis := by
  have htype : type.isTemporal = true := by
    cases h with
    | date htype | datetime htype => rcases htype with rfl | rfl <;> rfl
    | time htype =>
      rw [htype]
      rfl
  have hform : value.unboxed = value ∧ value.isNull = false ∧ value.asText? = none := by
    cases h <;> exact ⟨rfl, rfl, rfl⟩
  obtain ⟨hbox, hnull, hplain⟩ := hform
  exact ⟨htype, by rw [normalize_temporal htype hbox hnull, toEpochMillis_of_asText? hplain]⟩

/-- The outcome is the count of a value, or an overflow if the value has none. -/
inductive HasCount (value : Cell) : Except Error Cell → Prop where
  | counted {m : Int} (hcounts : value.Counts m) : HasCount value (.ok (.int m))
  | uncounted (hcounts : ∀ m, ¬value.Counts m) : HasCount value (.error (.overflow .calendar))

theorem hasCount_normalize (h : type.HasTemporal value) : HasCount value (value.normalize type).outcome := by
  obtain ⟨htype, hvalue⟩ := normalize_of_hasTemporal h
  by_cases hsome : ∃ m, value.Counts m
  · obtain ⟨m, hcounts⟩ := hsome
    rw [hcounts.normalize htype]
    exact .counted hcounts
  · -- Only an instant at an offset can be without a count.
    have hnone := not_exists.1 hsome
    have hfails : value.temporalMillis = failOverflow .calendar := by
      cases h with
      | date _ d => exact absurd (.date d) (hnone _)
      | time _ t => exact absurd (.time t _) (hnone _)
      | @datetime _ d offset _ =>
        cases offset with
        | none => exact absurd (.naive d) (hnone _)
        | some offset =>
          cases huniversal : d.toUniversal? offset with
          | some instant => exact absurd (.aware huniversal) (hnone _)
          | none => exact temporalMillis_of_outside huniversal
    rw [hvalue, hfails]
    exact .uncounted hnone

/-- **The text of a value is normalized like the value.** -/
theorem normalize_temporalText (h : type.HasTemporal value) :
    ∃ written, Statement.temporalText value = .text written ∧
      ((Cell.text written).normalize type).outcome = (value.normalize type).outcome := by
  obtain ⟨htype, hvalue⟩ := normalize_of_hasTemporal h
  obtain ⟨written, read, hwritten, hread, hsame⟩ := exists_readTemporal h
  refine ⟨written, hwritten, ?_⟩
  calc ((Cell.text written).normalize type).outcome
      = read.temporalMillis := by rw [normalize_temporal htype rfl rfl, toEpochMillis_text hread]
    _ = value.temporalMillis := hsame
    _ = (value.normalize type).outcome := hvalue.symm

end Temporal

end Cell

end TypedRows
