import TypedRows.Proofs.Cell.Handle
import TypedRows.Proofs.Cell.Normalization
import TypedRows.Proofs.Number.Rounding
import TypedRows.Proofs.Record.Construction
/-!
# Cells that a column admits

`SqlType.Admits` says in which forms a driver may give the values of a column of a type. Each of them is
normalized to a value that a field of the column's kind holds (`SqlType.normalizesTo_of_admits`): the table of
kinds and the table of conversions agree on every type.
-/

namespace TypedRows

/-! ## The forms of the values of a type -/

namespace Cell

def IsText (cell : Cell) : Prop := ∃ s, cell.relaxed = .text s

def IsBuffer (cell : Cell) : Prop := ∃ form data, cell.relaxed = .bytes form data

/-- An integer that is no truth value, in a range with its ends included. -/
def IsIntegerIn (range : Int × Int) (cell : Cell) : Prop :=
  ∃ i, cell.asInt? = some i ∧ range.1 ≤ i ∧ i ≤ range.2

/-- A handle that is read and released without a failure, and whose content has a property. -/
def IsHandleOf (P : Cell → Prop) : Cell → Prop
  | .lob h => h.readFault = none ∧ (h.releaseMethod? = none ∨ h.releaseFault = none) ∧ P h.content
  | .blob b => b.freed = false ∧ P (.bytes .frozen b.data)
  | _ => False

/-- A number with a nearest double: a double, an integer of at most 1023 bits, or a decimal that is not a
signaling undefined number. -/
def IsNumber (cell : Cell) : Prop :=
  (∃ x, cell.relaxed = .float x) ∨ (∃ i, cell.asInt? = some i ∧ i.natAbs < 2 ^ 1023) ∨
    ∃ d, cell = .decimal d ∧ ∀ negative payload, d ≠ .undefined negative true payload

/-- A date, a time, an instant that has a place in the calendar of universal time, or a count of milliseconds.
Offsets of times are shorter than a day. -/
def IsTemporal (cell : Cell) : Prop :=
  (∃ d, cell = .date d) ∨ (∃ t offset, cell = .time t offset ∧ ∀ o ∈ offset, o.natAbs < 86400) ∨
    (∃ d, cell = .datetime d none) ∨
    (∃ d offset, cell = .datetime d (some offset) ∧ (d.toUniversal? offset).isSome = true) ∨
    cell.IsIntegerIn Kind.int64Range

end Cell

/-- The cell is a value other than null of a column of the type. -/
def SqlType.Admits (type : SqlType) (cell : Cell) : Prop :=
  match type with
  | .bit | .boolean => (∃ b, cell = .bool b) ∨ ∃ i, cell.asInt? = some i
  | .tinyint | .smallint | .integer => cell.IsIntegerIn Kind.int32Range
  | .bigint => cell.IsIntegerIn Kind.int64Range
  | .real | .float | .double | .numeric | .decimal => cell.IsNumber
  | .date | .time | .timestamp => cell.IsTemporal
  | .char | .varchar | .longvarchar | .nchar | .nvarchar | .longnvarchar | .rowid => cell.IsText
  | .clob | .nclob => cell.IsText ∨ cell.IsHandleOf Cell.IsText
  | .binary | .varbinary | .longvarbinary => cell.IsBuffer
  | .blob => cell.IsBuffer ∨ cell.IsHandleOf Cell.IsBuffer
  | .null | .other | .javaObject | .distinct | .struct | .array | .ref | .datalink | .sqlxml => False

/-! ## Boxes -/

namespace Cell

theorem unboxed_unboxed (cell : Cell) : cell.unboxed.unboxed = cell.unboxed :=
  unboxed_of_ne_boxed cell.unboxed_ne_boxed

/-- A cell is normalized by what is in its box. -/
theorem normalize_unboxed (type : SqlType) (cell : Cell) : cell.unboxed.normalize type = cell.normalize type := by
  rw [normalize, normalize, unboxed_unboxed]

theorem IsText.exists_unboxed {cell : Cell} (h : cell.IsText) : ∃ s, cell.unboxed = .text s := by
  obtain ⟨s, hs⟩ := h
  unfold relaxed at hs
  split at hs
  · exact ⟨_, rfl⟩
  · cases hs
  · cases hs
  · exact ⟨s, by rw [hs]; rfl⟩

theorem IsBuffer.exists_unboxed {cell : Cell} (h : cell.IsBuffer) :
    ∃ form data, cell.unboxed = .bytes form data := by
  obtain ⟨form, data, hs⟩ := h
  unfold relaxed at hs
  split at hs
  · cases hs
  · exact ⟨_, _, rfl⟩
  · cases hs
  · exact ⟨form, data, by rw [hs]; rfl⟩

theorem unboxed_of_relaxed_float {cell : Cell} {x : Double} (h : cell.relaxed = .float x) :
    cell.unboxed = .float x := by
  unfold relaxed at h
  split at h
  · cases h
  · cases h
  · cases h
    rfl
  · rw [h]
    rfl

end Cell

/-! ## Handles -/

namespace Cell

/-- A handle that is read and released without a failure gives its content. -/
theorem IsHandleOf.exists_handle {P : Cell → Prop} {cell : Cell} (h : cell.IsHandleOf P) :
    ∃ handle, cell.handle? = some handle ∧ handle.failure? = none ∧ P handle.content := by
  cases cell with
  | lob l =>
    obtain ⟨hread, hrelease, hcontent⟩ := h
    rw [releaseMethod?_eq] at hrelease
    exact ⟨_, rfl, Handle.failure?_eq_none (by rw [hread]; rfl) (hrelease.imp_right fun hnone => by rw [hnone]; rfl),
      hcontent⟩
  | blob b =>
    obtain ⟨hfreed, hcontent⟩ := h
    exact ⟨_, rfl, Handle.failure?_eq_none (by simp [hfreed]) (.inr rfl), hcontent⟩
  | _ => exact h.elim

/-- The content of a character large object, if it is a text. -/
theorem IsText.exists_characterContent {cell : Cell} (h : cell.IsText) :
    ∃ s, cell.characterContent = .ok s := by
  obtain ⟨s, hs⟩ := h
  have hlength : cell.length = .ok s.length := by rw [length, hs]
  by_cases hzero : s.length = 0
  · exact ⟨"", by simp [characterContent, hlength, hzero, bind, Except.bind, pure, Except.pure]⟩
  · exact ⟨Text.joinLines s, by simp [characterContent, hlength, hzero, hs, bind, Except.bind, pure, Except.pure]⟩

/-- The content of a binary large object, if it is a buffer. -/
theorem IsBuffer.exists_binaryContent {cell : Cell} (h : cell.IsBuffer) :
    ∃ data, cell.binaryContent = .ok data := by
  obtain ⟨form, data, hs⟩ := h
  have hlength : cell.length = .ok data.length := by rw [length, hs]
  have hbytes : cell.toBytes = .ok data := by
    unfold relaxed at hs
    split at hs
    · cases hs
    · cases hs
      rfl
    · cases hs
    · rw [hs]
      rfl
  exact ⟨data, by simp [binaryContent, hlength, hbytes, bind, Except.bind]⟩

end Cell

/-! ## Every admitted cell is normalized -/

/-- A cell is normalized to a value other than null that a field of a kind holds. -/
def Cell.NormalizesTo (cell : Cell) (type : SqlType) (kind : Kind) : Prop :=
  ∃ value, (cell.normalize type).outcome = .ok value ∧ value.isNull = false ∧ kind.isCanonical value = true

section Admission

variable {type : SqlType} {kind : Kind} {cell : Cell}

theorem normalizesTo_of_text (hkind : Kind.ofSqlType? type = some .string) (h : cell.IsText) :
    cell.NormalizesTo type .string := by
  obtain ⟨s, hs⟩ := h.exists_unboxed
  rw [Cell.NormalizesTo, ← Cell.normalize_unboxed, hs, Cell.normalize_text hkind]
  exact ⟨_, rfl, rfl, rfl⟩

theorem normalizesTo_of_buffer (hkind : Kind.ofSqlType? type = some .bytes) (h : cell.IsBuffer) :
    cell.NormalizesTo type .bytes := by
  obtain ⟨form, data, hs⟩ := h.exists_unboxed
  rw [Cell.NormalizesTo, ← Cell.normalize_unboxed, hs, Cell.normalize_bytes hkind]
  exact ⟨_, rfl, rfl, rfl⟩

theorem normalizesTo_of_truth (htype : type = .bit ∨ type = .boolean)
    (h : (∃ b, cell = .bool b) ∨ ∃ i, cell.asInt? = some i) : cell.NormalizesTo type .boolean := by
  have hbool : ∃ b, (cell.normalize type).outcome = .ok (.bool b) := by
    rcases h with ⟨b, rfl⟩ | ⟨i, hi⟩
    · rcases htype with rfl | rfl <;> exact ⟨b, rfl⟩
    · rcases Cell.asInt?_eq_some_iff.1 hi with rfl | ⟨t, rfl, -⟩ <;>
        rcases htype with rfl | rfl <;> exact ⟨_, rfl⟩
  obtain ⟨b, hb⟩ := hbool
  exact ⟨_, hb, rfl, rfl⟩

theorem normalizesTo_of_int32 (hkind : Kind.ofSqlType? type = some .int32) (h : cell.IsIntegerIn Kind.int32Range) :
    cell.NormalizesTo type .int32 := by
  obtain ⟨i, hi, hmem⟩ := h
  have hcan := Kind.isCanonical_int32.2 ⟨i, hi, hmem⟩
  exact ⟨cell, Cell.normalize_int (Or.inl hkind) hi, Cell.isNull_of_asInt? hi, hcan⟩

theorem normalizesTo_of_int64 (hkind : Kind.ofSqlType? type = some .int64) (h : cell.IsIntegerIn Kind.int64Range) :
    cell.NormalizesTo type .int64 := by
  obtain ⟨i, hi, hmem⟩ := h
  have hcan := Kind.isCanonical_int64.2 ⟨i, hi, hmem⟩
  exact ⟨cell, Cell.normalize_int (Or.inr hkind) hi, Cell.isNull_of_asInt? hi, hcan⟩

/-- A column of floating point numbers or of decimals. -/
def SqlType.IsFloating (type : SqlType) : Prop :=
  Kind.ofSqlType? type = some .float32 ∨ Kind.ofSqlType? type = some .float64

theorem normalize_number (htype : type.IsFloating) (hnull : cell.isNull = false) (hbox : cell.unboxed = cell) :
    (cell.normalize type).outcome = cell.normalizeNumber := by
  rw [Cell.normalize, hbox, hnull]
  cases type <;> first | ((rcases htype with h | h <;> cases h); done) | rfl

theorem exists_doubleOfDecimal {d : Decimal} (h : ∀ negative payload, d ≠ .undefined negative true payload) :
    ∃ x, doubleOfDecimal d = .ok x := by
  cases d with
  | finite negative coefficient exponent => exact ⟨_, by rw [doubleOfDecimal, Decimal.toDouble?]⟩
  | infinite negative => exact ⟨_, by rw [doubleOfDecimal, Decimal.toDouble?]⟩
  | undefined negative signaling payload =>
    cases signaling with
    | true => exact absurd rfl (h negative payload)
    | false => exact ⟨_, by rw [doubleOfDecimal, Decimal.toDouble?]⟩

/-- A number becomes the nearest double. -/
theorem exists_normalize_of_number (htype : type.IsFloating) (h : cell.IsNumber) :
    ∃ x, (cell.normalize type).outcome = .ok (.float x) := by
  rcases h with ⟨x, hx⟩ | ⟨i, hi, hsmall⟩ | ⟨d, rfl, hquiet⟩
  · rw [← Cell.normalize_unboxed, Cell.unboxed_of_relaxed_float hx]
    exact ⟨x, Cell.normalize_float htype x⟩
  · obtain ⟨x, hx⟩ := exists_doubleOfInt hsmall
    have hnumber : cell.normalizeNumber = (doubleOfInt i).map Cell.float := by
      rcases Cell.asInt?_eq_some_iff.1 hi with rfl | ⟨t, rfl, rfl⟩ <;> rfl
    have hbox : cell.unboxed = cell := by
      rcases Cell.asInt?_eq_some_iff.1 hi with rfl | ⟨t, rfl, rfl⟩ <;> rfl
    rw [normalize_number htype (Cell.isNull_of_asInt? hi) hbox, hnumber, hx]
    exact ⟨x, rfl⟩
  · obtain ⟨x, hx⟩ := exists_doubleOfDecimal hquiet
    have hnumber : (Cell.decimal d).normalizeNumber = (doubleOfDecimal d).map Cell.float := rfl
    rw [normalize_number htype rfl rfl, hnumber, hx]
    exact ⟨x, rfl⟩

theorem normalizesTo_of_number (hkind : Kind.ofSqlType? type = some kind)
    (hfloat : kind = .float32 ∨ kind = .float64) (h : cell.IsNumber) : cell.NormalizesTo type kind := by
  have htype : type.IsFloating := by
    rcases hfloat with rfl | rfl
    · exact Or.inl hkind
    · exact Or.inr hkind
  obtain ⟨x, hx⟩ := exists_normalize_of_number htype h
  refine ⟨.float x, hx, rfl, ?_⟩
  rcases hfloat with rfl | rfl <;> rfl

/-- A date, a time or an instant becomes a count of milliseconds of 64 bits. -/
theorem exists_temporalMillis (h : cell.IsTemporal) :
    cell.isNull = false ∧ cell.unboxed = cell ∧ cell.asText? = none ∧
      ∃ value, cell.temporalMillis = .ok value ∧ value.IsIntegerIn Kind.int64Range := by
  have hinstant : ∀ d : DateTime, (Cell.int d.epochMillis).IsIntegerIn Kind.int64Range := by
    intro d
    have hlower := d.minEpochMillis_le
    have hupper := d.epochMillis_le_max
    unfold minEpochMillis at hlower
    unfold maxEpochMillis at hupper
    exact ⟨_, rfl, by unfold Kind.int64Range; omega⟩
  rcases h with ⟨d, rfl⟩ | ⟨t, offset, rfl, hoffset⟩ | ⟨d, rfl⟩ | ⟨d, offset, rfl, huniversal⟩ | ⟨i, hi, hmem⟩
  · exact ⟨rfl, rfl, rfl, _, rfl, hinstant _⟩
  · refine ⟨rfl, rfl, rfl, _, rfl, _, rfl, ?_⟩
    have hlt := t.micros_lt
    have hsmall : (offset.getD 0).natAbs < 86400 := by
      cases offset with
      | none => decide
      | some o => exact hoffset o rfl
    unfold TimeOfDay.millis Kind.int64Range
    rw [Int.fdiv_eq_ediv_of_nonneg _ (by decide)]
    unfold microsPerDay microsPerSecond at *
    omega
  · exact ⟨rfl, rfl, rfl, _, rfl, hinstant _⟩
  · obtain ⟨instant, hinst⟩ := Option.isSome_iff_exists.1 huniversal
    exact ⟨rfl, rfl, rfl, .int instant.epochMillis, by simp [Cell.temporalMillis, hinst], hinstant _⟩
  · rcases Cell.asInt?_eq_some_iff.1 hi with rfl | ⟨t, rfl, rfl⟩
    · exact ⟨rfl, rfl, rfl, _, rfl, i, rfl, hmem⟩
    · exact ⟨rfl, rfl, rfl, _, rfl, t.code, rfl, hmem⟩

theorem normalizesTo_of_temporal (htype : type.isTemporal = true) (h : cell.IsTemporal) :
    cell.NormalizesTo type .int64 := by
  obtain ⟨hnull, hbox, htext, value, hvalue, i, hi, hmem⟩ := exists_temporalMillis h
  refine ⟨value, ?_, Cell.isNull_of_asInt? hi, Kind.isCanonical_int64.2 ⟨i, hi, hmem⟩⟩
  rw [Cell.normalize_temporal htype hbox hnull, Cell.toEpochMillis_of_asText? htext, hvalue]

theorem normalizesTo_of_textHandle (htype : type = .clob ∨ type = .nclob) (h : cell.IsHandleOf Cell.IsText) :
    cell.NormalizesTo type .string := by
  obtain ⟨handle, hhandle, hfailure, htext⟩ := h.exists_handle
  obtain ⟨s, hs⟩ := htext.exists_characterContent
  have hsort : type.lobSort? = some .character := by rcases htype with rfl | rfl <;> rfl
  refine ⟨.text s, ?_, rfl, rfl⟩
  rw [Cell.normalize_of_handle hsort hhandle]
  simp only [hfailure, LobSort.decode, hs]
  rfl

theorem normalizesTo_of_bufferHandle (h : cell.IsHandleOf Cell.IsBuffer) : cell.NormalizesTo .blob .bytes := by
  obtain ⟨handle, hhandle, hfailure, hbuffer⟩ := h.exists_handle
  obtain ⟨data, hdata⟩ := hbuffer.exists_binaryContent
  have hsort : SqlType.blob.lobSort? = some .binary := rfl
  refine ⟨.bytes .frozen data, ?_, rfl, rfl⟩
  rw [Cell.normalize_of_handle hsort hhandle]
  simp only [hfailure, LobSort.decode, hdata]
  rfl

end Admission

/-- **Every admitted cell is normalized** to a value of the kind that goes with the type. -/
theorem SqlType.normalizesTo_of_admits {type : SqlType} {kind : Kind} {cell : Cell}
    (hkind : Kind.ofSqlType? type = some kind) (h : type.Admits cell) : cell.NormalizesTo type kind := by
  cases type with
  | bit => cases hkind; exact normalizesTo_of_truth (Or.inl rfl) h
  | boolean => cases hkind; exact normalizesTo_of_truth (Or.inr rfl) h
  | tinyint | smallint | integer => cases hkind; exact normalizesTo_of_int32 rfl h
  | bigint => cases hkind; exact normalizesTo_of_int64 rfl h
  | real | float => cases hkind; exact normalizesTo_of_number rfl (Or.inl rfl) h
  | double | numeric | decimal => cases hkind; exact normalizesTo_of_number rfl (Or.inr rfl) h
  | date | time | timestamp => cases hkind; exact normalizesTo_of_temporal rfl h
  | char | varchar | longvarchar | nchar | nvarchar | longnvarchar | rowid =>
    cases hkind; exact normalizesTo_of_text rfl h
  | clob | nclob =>
    cases hkind
    rcases h with h | h
    · exact normalizesTo_of_text rfl h
    · exact normalizesTo_of_textHandle (by simp) h
  | binary | varbinary | longvarbinary => cases hkind; exact normalizesTo_of_buffer rfl h
  | blob =>
    cases hkind
    rcases h with h | h
    · exact normalizesTo_of_buffer rfl h
    · exact normalizesTo_of_bufferHandle h
  | null => exact h.elim
  | other | javaObject | distinct | struct | array | ref | datalink | sqlxml => cases hkind

end TypedRows
