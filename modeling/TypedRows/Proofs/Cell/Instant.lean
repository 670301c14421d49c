import TypedRows.Proofs.Calendar.Order
import TypedRows.Proofs.Cell.Normalization
import TypedRows.Proofs.Statement.Binding
/-!
# Instants and epoch milliseconds of cells

A column of instants is written by `DateTime.ofEpochMillis` and read by `Cell.toEpochMillis`. The two are inverse
to each other between the first and the last instant of the calendar, up to the microseconds that a count of
milliseconds cannot hold, and reading follows the order of the calendar, for instants at an offset as well
(`Cell.IsInstant`).

A count that names no instant is refused with the count and its bounds (`DateTime.IsRefused`), which is a message
that cannot be made of a count of more than `maxIntegerDigits` digits.

Main statement: `Cell.toEpochMillis_inverse`.
-/

namespace TypedRows

namespace DateTime

/-- A count that names an instant is written as the instant. -/
theorem exists_ofEpochMillis {m : Int} (h : minEpochMillis ≤ m ∧ m ≤ maxEpochMillis) :
    ∃ d, ofEpochMillis (.int m) = .ok d ∧ ofEpochMicros? (m * 1000) = some d := by
  have hm : (Cell.int m).asInt? = some m := rfl
  obtain ⟨d, hd, hwritten⟩ := ofEpochMillis_of_mem hm h
  rw [instant?_of_asInt? hm] at hd
  exact ⟨d, hwritten, hd⟩

/-- The count is refused as one that lies outside the range of the calendar. -/
def IsRefused (m : Int) : Prop :=
  ∃ fault, ofEpochMillis (.int m) = .error (.range fault) ∧ fault.value = .int m ∧
    fault.lower = .int minEpochMillis ∧ fault.upper = .int maxEpochMillis

section Refusals

variable {m : Int}

theorem ofEpochMillis_of_long (hlong : isLongInteger m = true) (hmem : ¬(minEpochMillis ≤ m ∧ m ≤ maxEpochMillis)) :
    ofEpochMillis (.int m) = .error (.value .longInteger) := by
  rw [ofEpochMillis_of_not_mem rfl hmem]
  exact RangeFault.refuse_of_long hlong

theorem isRefused_of_short (hshort : isLongInteger m = false) (hmem : ¬(minEpochMillis ≤ m ∧ m ≤ maxEpochMillis)) :
    IsRefused m := by
  refine ⟨.epochMillis (.int m), ?_, rfl, rfl, rfl⟩
  rw [ofEpochMillis_of_not_mem rfl hmem]
  exact RangeFault.refuse_of_short hshort (isLongInteger_eq_false (by decide)) (isLongInteger_eq_false (by decide))

/-- A count outside the range of the calendar is refused as such exactly if a message can show it. -/
theorem isRefused_iff (hmem : ¬(minEpochMillis ≤ m ∧ m ≤ maxEpochMillis)) :
    IsRefused m ↔ isLongInteger m = false := by
  refine ⟨fun ⟨fault, hfault, _⟩ => ?_, fun hshort => isRefused_of_short hshort hmem⟩
  by_contra hlong
  have hvalue := ofEpochMillis_of_long (Bool.not_eq_false _ ▸ hlong) hmem
  cases hfault.symm.trans hvalue

end Refusals

theorem ofEpochMillis_epochMillis (d : DateTime) : ofEpochMillis (.int d.epochMillis) = .ok d.wholeMillis := by
  obtain ⟨d', hwritten, hd'⟩ := exists_ofEpochMillis ⟨d.minEpochMillis_le, d.epochMillis_le_max⟩
  rw [ofEpochMicros?_epochMillis] at hd'
  rw [hwritten, Option.some.inj hd']

end DateTime

namespace Cell

/-- The cell is an instant, and it is `d` in universal time. -/
def IsInstant (cell : Cell) (d : DateTime) : Prop :=
  ∃ here offset, cell = .datetime here offset ∧ (d.micros : Int) = here.micros - offset.getD 0 * microsPerSecond

theorem isInstant_datetime (d : DateTime) : (Cell.datetime d none).IsInstant d := ⟨d, none, rfl, by simp⟩

/-- An instant is read as the count of its universal time. -/
theorem IsInstant.toEpochMillis {cell : Cell} {d : DateTime} (h : cell.IsInstant d) (type : SqlType) :
    cell.toEpochMillis type = .ok (.int d.epochMillis) := by
  obtain ⟨here, offset, rfl, hmicros⟩ := h
  rw [toEpochMillis_of_asText? rfl]
  cases offset with
  | none =>
    rw [Option.getD_none] at hmicros
    have hsame : d = here := DateTime.micros_injective (by omega)
    rw [hsame]
    rfl
  | some offset =>
    have huniversal : here.toUniversal? offset = some d := DateTime.ofMicros?_eq_some_iff.2 hmicros
    rw [temporalMillis, huniversal]

/-- **Counts of epoch milliseconds and instants are inverse to each other.** Exactly the counts from that of the
first instant to that of the last are written, and read again; any other count is refused with the count and these
bounds if and only if it is not too long to be written in the refusal. Every instant is read as a count in the bounds,
which is written as the instant with whole milliseconds. An instant at an offset is read as the same instant in
universal time. An earlier instant is never read as a larger count, and instants in different milliseconds are read as
different counts. -/
theorem toEpochMillis_inverse (type : SqlType) :
    (DateTime.first.epochMillis = minEpochMillis ∧ DateTime.last.epochMillis = maxEpochMillis) ∧
    (∀ m : Int,
      (minEpochMillis ≤ m ∧ m ≤ maxEpochMillis →
        ∃ d, DateTime.ofEpochMillis (.int m) = .ok d ∧ (Cell.datetime d none).toEpochMillis type = .ok (.int m)) ∧
      (¬(minEpochMillis ≤ m ∧ m ≤ maxEpochMillis) →
        (DateTime.IsRefused m ↔ isLongInteger m = false) ∧
        (isLongInteger m = true → DateTime.ofEpochMillis (.int m) = .error (.value .longInteger)))) ∧
    (∀ d : DateTime, ∃ m, (Cell.datetime d none).toEpochMillis type = .ok (.int m) ∧
      minEpochMillis ≤ m ∧ m ≤ maxEpochMillis ∧ DateTime.ofEpochMillis (.int m) = .ok d.wholeMillis) ∧
    (∀ (cell : Cell) (d : DateTime), cell.IsInstant d →
      cell.toEpochMillis type = (Cell.datetime d none).toEpochMillis type) ∧
    ∀ (cell cell' : Cell) (d d' : DateTime), cell.IsInstant d → cell'.IsInstant d' →
      ∃ m m', cell.toEpochMillis type = .ok (.int m) ∧ cell'.toEpochMillis type = .ok (.int m') ∧
        (d.numbers < d'.numbers → m ≤ m') ∧ (d.wholeMillis ≠ d'.wholeMillis → m ≠ m') := by
  refine ⟨⟨DateTime.epochMillis_first, DateTime.epochMillis_last⟩, fun m => ⟨fun hmem => ?_, fun hmem => ?_⟩,
    fun d => ?_, fun cell d h => ?_, fun cell cell' d d' h h' => ?_⟩
  · obtain ⟨d, hwritten, hd⟩ := DateTime.exists_ofEpochMillis hmem
    exact ⟨d, hwritten, by rw [(isInstant_datetime d).toEpochMillis, DateTime.epochMillis_of_ofEpochMicros? hd]⟩
  · exact ⟨DateTime.isRefused_iff hmem, fun hlong => DateTime.ofEpochMillis_of_long hlong hmem⟩
  · exact ⟨d.epochMillis, (isInstant_datetime d).toEpochMillis type, d.minEpochMillis_le, d.epochMillis_le_max,
      d.ofEpochMillis_epochMillis⟩
  · rw [h.toEpochMillis, (isInstant_datetime d).toEpochMillis]
  · exact ⟨d.epochMillis, d'.epochMillis, h.toEpochMillis type, h'.toEpochMillis type,
      DateTime.epochMillis_le_of_numbers_lt, mt DateTime.epochMillis_eq_iff.1⟩

/-- The last microsecond before 1970. -/
def eveOfEpoch : DateTime := ⟨⟨1969, 12, 31, by decide⟩, DateTime.last.time⟩

/-- The count before that of the epoch is written, and the last microsecond before the epoch is read as another
count than the epoch, which is given at one hour ahead of universal time. -/
theorem toEpochMillis_inverse_eve :
    (minEpochMillis ≤ -1 ∧ -1 ≤ maxEpochMillis) ∧
      (∃ d, DateTime.ofEpochMillis (.int (-1)) = .ok d ∧
        (Cell.datetime d none).toEpochMillis .timestamp = .ok (.int (-1))) ∧
      ∃ m m', (Cell.datetime eveOfEpoch none).toEpochMillis .timestamp = .ok (.int m) ∧
        (Cell.datetime ⟨Date.epoch, ⟨1, 0, 0, 0, by decide⟩⟩ (some 3600)).toEpochMillis .timestamp = .ok (.int m') ∧
        m ≤ m' ∧ m ≠ m' := by
  obtain ⟨-, hcounts, -, -, horder⟩ := toEpochMillis_inverse .timestamp
  have hepoch : (Cell.datetime ⟨Date.epoch, ⟨1, 0, 0, 0, by decide⟩⟩ (some 3600)).IsInstant DateTime.epoch :=
    ⟨_, _, rfl, by decide⟩
  obtain ⟨m, m', hm, hm', hle, hne⟩ := horder _ _ _ _ (isInstant_datetime eveOfEpoch) hepoch
  exact ⟨by decide, (hcounts (-1)).1 (by decide), m, m', hm, hm', hle (by decide), hne (by decide)⟩

end Cell

/-- The least count that is too long to be written lies outside the range of the calendar, and is not refused with
that range. -/
theorem DateTime.not_isRefused_longInteger :
    ¬(minEpochMillis ≤ longInteger ∧ longInteger ≤ maxEpochMillis) ∧ ¬IsRefused longInteger ∧
      ofEpochMillis (.int longInteger) = .error (.value .longInteger) := by
  have hlong := isLongInteger_longInteger
  have hmem : ¬(minEpochMillis ≤ longInteger ∧ longInteger ≤ maxEpochMillis) := by
    rintro ⟨hlower, hupper⟩
    have hlarge := le_natAbs_longInteger
    simp only [minEpochMillis, maxEpochMillis] at hlower hupper
    omega
  refine ⟨hmem, fun hrefused => ?_, ofEpochMillis_of_long hlong hmem⟩
  rw [isRefused_iff hmem, hlong] at hrefused
  cases hrefused

end TypedRows
