import TypedRows.Proofs.Cell.Admission
import TypedRows.Proofs.Record.Checking
/-!
# Cells that no conversion applies to

A cell in a form that its column does not have is to be left as it is, for the record to refuse it. What each type
converts is stated first (`Cell.Converts`), then what the conversions fail on (`Cell.Raises`): a number without a
nearest double, and an instant that leaves the calendar on the way to universal time. Text that is no date or time
is left alone; text that writes such an instant is not.

Main statement: `Cell.normalize_passes_iff`, for every cell that is no handle in a column of any type. Among other
things it says that nothing else ever fails.
-/

namespace TypedRows

/-- **A fraction has a nearest double** if it lies below the limit. -/
theorem doubleOfRat_eq (q : Rat) :
    doubleOfRat q = if q.num.natAbs < doubleLimit * q.den then .ok (.ofRat q) else failOverflow .quotient := by
  have hfinite : (Binary.ofRat q : Double).isInfinite = false ↔ q.num.natAbs < doubleLimit * q.den :=
    isInfinite_ofRatio q.den_pos
  rw [doubleOfRat]
  by_cases h : q.num.natAbs < doubleLimit * q.den
  · rw [if_pos h, if_neg (by simp [hfinite.2 h])]
  · rw [if_neg h, if_pos (Bool.not_eq_false _ ▸ fun hcontra => h (hfinite.1 hcontra))]

/-- The reader of times does not look at the calendar. -/
theorem IsoReader.readTime_ne_outOfRange (s : String) : IsoReader.readTime s ≠ .error .outOfRange := by
  have hmalformed : ∀ {α : Type} (found : Option α), orMalformed found ≠ .error .outOfRange := by
    intro α found
    cases found <;> simp [orMalformed]
  intro h
  unfold readTime asciiChars at h
  split at h
  · simp only [bind, Except.bind, pure, Except.pure] at h
    split at h
    · rename_i hraw
      cases h
      exact hmalformed _ hraw
    · split at h
      · rename_i htime
        cases h
        exact hmalformed _ htime
      · cases h
  · cases h

namespace Cell

/-! ## What is converted -/

/-- The double nearest to the number in a cell. -/
inductive NearestDouble : Cell → Double → Prop where
  | integer {cell : Cell} {i : Int} (hint : cell.asInt? = some i) (hsmall : i.natAbs < doubleLimit) :
    NearestDouble cell (Binary.ofInt i)
  | float (x : Double) : NearestDouble (.float x) x
  | decimal {d : Decimal} {x : Double} (hquiet : d.toDouble? = some x) : NearestDouble (.decimal d) x
  | fraction {q : Rat} (hsmall : q.num.natAbs < doubleLimit * q.den) : NearestDouble (.fraction q) (.ofRat q)

/-- The time or the instant that a text writes, in a column of a type. -/
inductive Written : SqlType → String → Cell → Prop where
  | time {s : String} {t : TimeOfDay} {offset : Option Int} (hread : IsoReader.readTime s = .ok (t, offset)) :
    Written .time s (.time t offset)
  | datetime {type : SqlType} {s : String} {d : DateTime} {offset : Option Int} (htype : type ≠ .time)
    (hread : IsoReader.readDateTime s = .ok (d, offset)) : Written type s (.datetime d offset)

/-- The conversions that the types apply to the cells that are no handles. -/
inductive Converts (type : SqlType) : Cell → Cell → Prop where
  | number {cell : Cell} {x : Double} (htype : type.IsFloating) (hnear : cell.NearestDouble x) :
    Converts type cell (.float x)
  | temporal {cell : Cell} {m : Int} (htype : type.isTemporal = true) (hcounts : cell.Counts m) :
    Converts type cell (.int m)
  | written {s : String} {value : Cell} {m : Int} (htype : type.isTemporal = true)
    (hwritten : Written type s value) (hcounts : value.Counts m) : Converts type (.text s) (.int m)
  | truth {cell : Cell} {i : Int} (htype : type = .bit ∨ type = .boolean) (hint : cell.asInt? = some i) :
    Converts type cell (.bool (i != 0))
  | lines (htype : type = .clob ∨ type = .nclob) (s : String) : Converts type (.text s) (.text (Text.joinLines s))
  | buffer (htype : Kind.ofSqlType? type = some .bytes) (form : BufferForm) (data : Bytes) :
    Converts type (.bytes form data) (.bytes .frozen data)

/-- The failures of the conversions: a number that has no nearest double, and an instant that leaves the calendar on
the way to universal time or already while its text is read. -/
inductive Raises (type : SqlType) : Cell → Error → Prop where
  | integer {cell : Cell} {i : Int} (htype : type.IsFloating) (hint : cell.asInt? = some i)
    (hlarge : doubleLimit ≤ i.natAbs) : Raises type cell (.overflow .integer)
  | fraction {q : Rat} (htype : type.IsFloating) (hlarge : doubleLimit * q.den ≤ q.num.natAbs) :
    Raises type (.fraction q) (.overflow .quotient)
  | complex (htype : type.IsFloating) (re im : Double) : Raises type (.complex re im) (.type (.notNumber "complex"))
  | signaling {d : Decimal} (htype : type.IsFloating) (hnone : d.toDouble? = none) :
    Raises type (.decimal d) (.value .signalingNumber)
  | shifted {d : DateTime} {offset : Int} (htype : type.isTemporal = true) (hnone : d.toUniversal? offset = none) :
    Raises type (.datetime d (some offset)) (.overflow .calendar)
  | writtenShifted {s : String} {d : DateTime} {offset : Int} (htype : type.isTemporal = true)
    (hwritten : Written type s (.datetime d (some offset))) (hnone : d.toUniversal? offset = none) :
    Raises type (.text s) (.overflow .calendar)
  | writtenPast {s : String} (htype : type.isTemporal = true) (hdated : type ≠ .time)
    (hread : IsoReader.readDateTime s = .error .outOfRange) : Raises type (.text s) (.overflow .calendar)

/-! ## The conversions -/

variable {type : SqlType} {cell value : Cell} {e : Error}

theorem unboxed_of_asInt? {i : Int} (h : cell.asInt? = some i) : cell.unboxed = cell := by
  rcases asInt?_eq_some_iff.1 h with rfl | ⟨t, rfl, -⟩ <;> rfl

theorem normalizeNumber_of_asInt? {i : Int} (h : cell.asInt? = some i) :
    cell.normalizeNumber = (doubleOfInt i).map .float := by
  rcases asInt?_eq_some_iff.1 h with rfl | ⟨t, rfl, rfl⟩ <;> rfl

theorem NearestDouble.normalize {x : Double} (htype : type.IsFloating) (h : cell.NearestDouble x) :
    (cell.normalize type).outcome = .ok (.float x) := by
  cases h with
  | integer hint hsmall =>
    rw [normalize_number htype (isNull_of_asInt? hint) (unboxed_of_asInt? hint), normalizeNumber_of_asInt? hint,
      doubleOfInt_eq, if_pos hsmall]
    rfl
  | float => exact normalize_float htype x
  | @decimal d _ hquiet =>
    rw [normalize_number htype rfl rfl]
    show (doubleOfDecimal d).map Cell.float = _
    rw [doubleOfDecimal, hquiet]
    rfl
  | @fraction q hsmall =>
    rw [normalize_number htype rfl rfl]
    show (doubleOfRat q).map Cell.float = _
    rw [doubleOfRat_eq, if_pos hsmall]
    rfl

theorem Written.readTemporal {s : String} (h : Written type s value) (given : Cell) :
    Cell.readTemporal type s given = .ok value := by
  cases h with
  | time hread => exact readTemporal_time hread given
  | datetime htype hread => exact readTemporal_of_ne_time htype hread given

/-- Text that writes no time or instant is left as it is. -/
theorem readTemporal_of_not_written {s : String} (hnot : ∀ value, ¬Written type s value)
    (hpast : type ≠ .time → IsoReader.readDateTime s ≠ .error .outOfRange) (given : Cell) :
    readTemporal type s given = .ok given := by
  by_cases htype : type = .time
  · subst htype
    cases hread : IsoReader.readTime s with
    | ok answer => exact absurd (Written.time hread) (hnot _)
    | error refusal =>
      cases refusal with
      | malformed => simp [readTemporal, hread, Except.map]
      | outOfRange => exact absurd hread (IsoReader.readTime_ne_outOfRange s)
  · cases hread : IsoReader.readDateTime s with
    | ok answer => exact absurd (Written.datetime htype hread) (hnot _)
    | error refusal =>
      cases refusal with
      | malformed => simp [readTemporal, htype, hread, Except.map]
      | outOfRange => exact absurd hread (hpast htype)

/-- What is to be converted is converted. -/
theorem Converts.normalize (h : Converts type cell value) : (cell.normalize type).outcome = .ok value := by
  cases h with
  | number htype hnear => exact hnear.normalize htype
  | temporal htype hcounts => exact hcounts.normalize htype
  | written htype hwritten hcounts =>
    rw [normalize_temporal htype rfl rfl, toEpochMillis_text (hwritten.readTemporal _), hcounts.temporalMillis]
  | truth htype hint =>
    rcases asInt?_eq_some_iff.1 hint with rfl | ⟨t, rfl, rfl⟩ <;> rcases htype with rfl | rfl <;> rfl
  | lines htype s => rcases htype with rfl | rfl <;> rfl
  | buffer htype form data => exact normalize_bytes htype form data

/-- A failure of a conversion is not caught. -/
theorem Raises.normalize (h : Raises type cell e) : (cell.normalize type).outcome = .error e := by
  cases h with
  | integer htype hint hlarge =>
    rw [normalize_number htype (isNull_of_asInt? hint) (unboxed_of_asInt? hint), normalizeNumber_of_asInt? hint,
      doubleOfInt_eq, if_neg (Nat.not_lt.2 hlarge)]
    rfl
  | @fraction q htype hlarge =>
    rw [normalize_number htype rfl rfl]
    show (doubleOfRat q).map Cell.float = _
    rw [doubleOfRat_eq, if_neg (Nat.not_lt.2 hlarge)]
    rfl
  | complex htype re im =>
    rw [normalize_number htype rfl rfl]
    rfl
  | @signaling d htype hnone =>
    rw [normalize_number htype rfl rfl]
    show (doubleOfDecimal d).map Cell.float = _
    rw [doubleOfDecimal, hnone]
    rfl
  | shifted htype hnone =>
    rw [normalize_temporal htype rfl rfl, toEpochMillis_of_asText? rfl, temporalMillis_of_outside hnone]
    rfl
  | writtenShifted htype hwritten hnone =>
    rw [normalize_temporal htype rfl rfl, toEpochMillis_text (hwritten.readTemporal _),
      temporalMillis_of_outside hnone]
    rfl
  | @writtenPast s htype hdated hread =>
    have hread : readTemporal type s (.text s) = failOverflow .calendar := by
      simp [readTemporal, hdated, hread, Except.map]
    rw [normalize_temporal htype rfl rfl]
    show (readTemporal type s (.text s) >>= temporalMillis) = _
    rw [hread]
    rfl

/-! ## Everything else -/

section Kept

variable (hconverts : ∀ value, ¬Converts type cell value) (hraises : ∀ e, ¬Raises type cell e)

include hconverts hraises

theorem normalizeNumber_of_kept (htype : type.IsFloating) : cell.normalizeNumber = .ok cell := by
  have hint : cell.asInt? = none := by
    by_contra hsome
    obtain ⟨i, hi⟩ := Option.ne_none_iff_exists'.1 hsome
    by_cases hsmall : i.natAbs < doubleLimit
    · exact hconverts _ (.number htype (.integer hi hsmall))
    · exact hraises _ (.integer htype hi (Nat.not_lt.1 hsmall))
  cases cell with
  | int | sqlType => cases hint
  | float x => exact absurd (.number htype (.float x)) (hconverts _)
  | complex re im => exact absurd (.complex htype re im) (hraises _)
  | decimal d =>
    cases hd : d.toDouble? with
    | some x => exact absurd (.number htype (.decimal hd)) (hconverts _)
    | none => exact absurd (.signaling htype hd) (hraises _)
  | fraction q =>
    by_cases hsmall : q.num.natAbs < doubleLimit * q.den
    · exact absurd (.number htype (.fraction hsmall)) (hconverts _)
    · exact absurd (.fraction htype (Nat.not_lt.1 hsmall)) (hraises _)
  | _ => rfl

theorem toEpochMillis_of_kept (htype : type.isTemporal = true) (hbox : cell.unboxed = cell) :
    cell.toEpochMillis type = .ok cell := by
  cases cell with
  | boxed b => exact absurd hbox (unboxed_ne_boxed _ b)
  | date d => exact absurd (.temporal htype (.date d)) (hconverts _)
  | time t offset => exact absurd (.temporal htype (.time t offset)) (hconverts _)
  | datetime d offset =>
    cases offset with
    | none => exact absurd (.temporal htype (.naive d)) (hconverts _)
    | some offset =>
      cases huniversal : d.toUniversal? offset with
      | some instant => exact absurd (.temporal htype (.aware huniversal)) (hconverts _)
      | none => exact absurd (.shifted htype huniversal) (hraises _)
  | text s =>
    have hnot : ∀ value, ¬Written type s value := by
      -- What is read counts something, or it is an instant that leaves the calendar.
      intro value hwritten
      cases hwritten with
      | time hread => exact hconverts _ (.written htype (.time hread) (.time _ _))
      | @datetime _ _ d offset hdated hread =>
        cases offset with
        | none => exact hconverts _ (.written htype (.datetime hdated hread) (.naive _))
        | some offset =>
          cases huniversal : d.toUniversal? offset with
          | some instant => exact hconverts _ (.written htype (.datetime hdated hread) (.aware huniversal))
          | none => exact hraises _ (.writtenShifted htype (.datetime hdated hread) huniversal)
    have hpast : type ≠ .time → IsoReader.readDateTime s ≠ .error .outOfRange :=
      fun hdated hread => hraises _ (.writtenPast htype hdated hread)
    rw [toEpochMillis_text (readTemporal_of_not_written hnot hpast _)]
    rfl
  | _ => rfl

/-- **A cell to which no conversion applies is left as it is.** -/
theorem normalize_of_kept (hbox : cell.unboxed = cell) (hhandle : cell.isHandle = false) :
    (cell.normalize type).outcome = .ok cell := by
  cases hnull : cell.isNull with
  | true =>
    obtain rfl := eq_null_of_isNull hnull
    rfl
  | false =>
    have hplain : cell.normalize type = cell.normalizePlain type := by simp [normalize, hbox, hnull]
    cases type with
    | numeric | decimal | double =>
      rw [normalize_number (.inr rfl) hnull hbox]
      exact normalizeNumber_of_kept hconverts hraises (.inr rfl)
    | real | float =>
      rw [normalize_number (.inl rfl) hnull hbox]
      exact normalizeNumber_of_kept hconverts hraises (.inl rfl)
    | date | time | timestamp =>
      rw [normalize_temporal rfl hbox hnull]
      exact toEpochMillis_of_kept hconverts hraises rfl hbox
    | bit | boolean =>
      rw [hplain]
      cases cell with
      | int i => exact absurd (.truth (by simp) rfl) (hconverts _)
      | sqlType t => exact absurd (.truth (by simp) rfl) (hconverts _)
      | _ => rfl
    | binary | varbinary | longvarbinary =>
      rw [hplain]
      cases cell with
      | bytes form data => exact absurd (.buffer rfl form data) (hconverts _)
      | _ => rfl
    | blob =>
      rw [hplain]
      cases cell with
      | bytes form data => exact absurd (.buffer rfl form data) (hconverts _)
      | boxed b => exact absurd hbox (unboxed_ne_boxed _ b)
      | lob | blob => cases hhandle
      | _ => rfl
    | clob | nclob =>
      rw [hplain]
      cases cell with
      | text s => exact absurd (.lines (by simp) s) (hconverts _)
      | boxed b => exact absurd hbox (unboxed_ne_boxed _ b)
      | lob | blob => cases hhandle
      | _ => rfl
    | _ => rw [hplain]; rfl

end Kept

/-! ## The later check of a record -/

/-- Every field takes the value, or refuses it with a failure that names the field. -/
def IsJudged (value : Cell) : Prop :=
  ∀ f : Field, (∃ kept, f.check value = .ok kept) ∨
    ∃ m : Mismatch, f.check value = .error (.mismatch m) ∧ m.field? = some f.name

/-- A field of truth values refuses whatever shows an integer with too many digits, and cannot say so. -/
theorem not_isJudged_of_showsLongInteger (hlong : value.unboxed.showsLongInteger = true) : ¬value.IsJudged := by
  intro hjudged
  have hnull : value.unboxed.isNull = false := by
    cases hcell : value.unboxed <;> rw [hcell] at hlong <;> first | rfl | cases hlong
  have hrefused : Kind.boolean.accepts value.unboxed = false := by
    cases hcell : value.unboxed with
    | boxed b => exact absurd hcell (unboxed_ne_boxed value b)
    | bool b =>
      rw [hcell] at hlong
      cases hlong
    | _ => rfl
  have hcheck := Field.check_of_not_accepts (f := ⟨"x", .boolean, false, by decide, by decide⟩) hnull hrefused
  rw [refuse, if_pos hlong] at hcheck
  rcases hjudged ⟨"x", .boolean, false, by decide, by decide⟩ with ⟨kept, hkept⟩ | ⟨m, hm, -⟩
  · cases hcheck.symm.trans hkept
  · cases hcheck.symm.trans hm

/-- A field of floating point fails on an integer without a nearest double. -/
theorem not_isJudged_of_large {i : Int} (hint : value.unboxed.asInt? = some i) (hlarge : doubleLimit ≤ i.natAbs) :
    ¬value.IsJudged := by
  intro hjudged
  have hover : Field.Overflows ⟨"x", .float64, false, by decide, by decide⟩ value := ⟨.inr rfl, i, hint, hlarge⟩
  rcases Field.check_cases ⟨"x", .float64, false, by decide, by decide⟩ value with
    ⟨-, hfits, -⟩ | ⟨-, hcheck⟩ | ⟨hnot, -⟩ | ⟨hnot, -⟩
  · exact hfits hover
  · rcases hjudged ⟨"x", .float64, false, by decide, by decide⟩ with ⟨kept, hkept⟩ | ⟨m, hm, -⟩
    · cases hcheck.symm.trans hkept
    · cases hcheck.symm.trans hm
  · exact hnot (Field.takes_of_overflows hover)
  · exact hnot (Field.takes_of_overflows hover)

/-- A value is judged by every field unless it is an integer without a nearest double or shows an integer with too
many digits. -/
theorem isJudged_iff : value.IsJudged ↔
    value.unboxed.showsLongInteger = false ∧ ∀ i, value.unboxed.asInt? = some i → i.natAbs < doubleLimit := by
  constructor
  · intro hjudged
    refine ⟨?_, fun i hint => ?_⟩
    · by_contra hlong
      exact not_isJudged_of_showsLongInteger (Bool.not_eq_false _ ▸ hlong) hjudged
    · by_contra hlarge
      exact not_isJudged_of_large hint (Nat.not_lt.1 hlarge) hjudged
  · rintro ⟨hshort, hsmall⟩ f
    rcases f.check_cases value with ⟨-, -, hkept⟩ | ⟨⟨-, i, hi, hlarge⟩, -⟩ | ⟨-, -, hm⟩ | ⟨-, hlong, -⟩
    · exact .inl hkept
    · exact absurd (hsmall i hi) (Nat.not_lt.2 hlarge)
    · exact .inr hm
    · cases hshort.symm.trans hlong

/-! ## The law -/

/-- What a cell is to become in a column of a type: what it is converted to, or else the cell as it is. -/
inductive Becomes (type : SqlType) (cell : Cell) : Cell → Prop where
  | converted {value : Cell} (hconverts : Converts type cell value) : Becomes type cell value
  | kept (hconverts : ∀ value, ¬Converts type cell value) : Becomes type cell cell

/-- The normalization of a cell, out of its box, gives what the cell is to become, and every field that gets the
result takes it or refuses it by its name. -/
def Passes (type : SqlType) (cell : Cell) : Prop :=
  ∃ value, cell.unboxed.Becomes type value ∧ (cell.normalize type).outcome = .ok value ∧ value.IsJudged

theorem Becomes.normalize (hbox : cell.unboxed = cell) (hhandle : cell.isHandle = false)
    (hraises : ∀ e, ¬Raises type cell e) (h : cell.Becomes type value) :
    (cell.normalize type).outcome = .ok value := by
  cases h with
  | converted hconverts => exact hconverts.normalize
  | kept hconverts => exact normalize_of_kept hconverts hraises hbox hhandle

theorem exists_becomes (type : SqlType) (cell : Cell) : ∃ value, cell.Becomes type value := by
  by_cases hsome : ∃ value, Converts type cell value
  · obtain ⟨value, hconverts⟩ := hsome
    exact ⟨value, .converted hconverts⟩
  · exact ⟨cell, .kept (not_exists.1 hsome)⟩

/-- **When a cell passes through normalization.** No handle is called. The cell becomes what it is to become, and is
judged by every field, unless a conversion fails on it, or it becomes an integer without a nearest double or shows an
integer with too many digits. A failure of a conversion is passed on as it is, with no field to blame. -/
theorem normalize_passes_iff (type : SqlType) {cell : Cell} (hhandle : cell.handle? = none) :
    (cell.normalize type).calls = [] ∧
      (Passes type cell ↔ (∀ e, ¬Raises type cell.unboxed e) ∧ ∀ value, cell.unboxed.Becomes type value →
        value.unboxed.showsLongInteger = false ∧ ∀ i, value.unboxed.asInt? = some i → i.natAbs < doubleLimit) ∧
      ((∀ e, ¬Raises type cell.unboxed e) →
        ∃ value, cell.unboxed.Becomes type value ∧ (cell.normalize type).outcome = .ok value) ∧
      ∀ e, Raises type cell.unboxed e → (cell.normalize type).outcome = .error e := by
  have hplain : cell.unboxed.isHandle = false := isHandle_unboxed_of_handle? hhandle
  have hsame : (cell.unboxed.normalize type).outcome = (cell.normalize type).outcome := by rw [normalize_unboxed]
  have hfails : ∀ e, Raises type cell.unboxed e → (cell.normalize type).outcome = .error e := by
    intro e hraises
    rw [← hsame, hraises.normalize]
  have hbecomes : (∀ e, ¬Raises type cell.unboxed e) → ∀ value, cell.unboxed.Becomes type value →
      (cell.normalize type).outcome = .ok value := by
    intro hraises value hvalue
    rw [← hsame, hvalue.normalize cell.unboxed_unboxed hplain hraises]
  refine ⟨calls_normalize_of_handle? hhandle, ?_, ?_, hfails⟩
  · constructor
    · rintro ⟨value, -, hvalue, hjudged⟩
      have hraises : ∀ e, ¬Raises type cell.unboxed e := by
        intro e hraises
        cases (hfails e hraises).symm.trans hvalue
      refine ⟨hraises, fun value' hvalue' => ?_⟩
      cases (hbecomes hraises value' hvalue').symm.trans hvalue
      exact isJudged_iff.1 hjudged
    · rintro ⟨hraises, hvalues⟩
      obtain ⟨value, hvalue⟩ := exists_becomes type cell.unboxed
      exact ⟨value, hvalue, hbecomes hraises value hvalue, isJudged_iff.2 (hvalues value hvalue)⟩
  · intro hraises
    obtain ⟨value, hvalue⟩ := exists_becomes type cell.unboxed
    exact ⟨value, hvalue, hbecomes hraises value hvalue⟩

def undated : Cell := .text "soon"

/-- A text that is no date passes through a column of instants. -/
theorem normalize_passes_undated : undated.handle? = none ∧ Passes .timestamp undated ∧
    ∃ value, undated.unboxed.Becomes .timestamp value ∧ (undated.normalize .timestamp).outcome = .ok value := by
  obtain ⟨-, hpasses, hbecomes, -⟩ := normalize_passes_iff .timestamp (show undated.handle? = none from rfl)
  have hread : IsoReader.readDateTime "soon" = .error .malformed := by decide +kernel
  have hnot : ∀ value, ¬Written .timestamp "soon" value := by
    intro value hwritten
    cases hwritten with
    | datetime _ h => cases hread.symm.trans h
  have hraises : ∀ e, ¬Raises .timestamp undated.unboxed e := by
    intro e h
    cases h with
    | integer _ hint => cases hint
    | writtenShifted _ hwritten => exact hnot _ hwritten
    | writtenPast _ _ h => cases hread.symm.trans h
  refine ⟨rfl, hpasses.2 ⟨hraises, fun value hvalue => ?_⟩, hbecomes hraises⟩
  cases hvalue with
  | converted hconverts =>
    cases hconverts with
    | number htype => rcases htype with htype | htype <;> cases htype
    | temporal _ hcounts => cases hcounts
    | written _ hwritten => exact absurd hwritten (hnot _)
    | truth _ hint => cases hint
    | lines htype => rcases htype with htype | htype <;> cases htype
  | kept => exact ⟨rfl, nofun⟩

/-- The end of the last day of the calendar, written as hour 24. -/
def endOfCalendar : Cell := .text "9999-12-31T24:00"

/-- The end of the last day is no instant of the calendar. It is not left as it is. -/
theorem not_passes_endOfCalendar : ¬Passes .timestamp endOfCalendar := by
  rintro ⟨value, -, hvalue, -⟩
  have hraises : Raises .timestamp endOfCalendar (.overflow .calendar) :=
    .writtenPast rfl (by decide) (by decide +kernel)
  cases hraises.normalize.symm.trans hvalue

end Cell

end TypedRows
