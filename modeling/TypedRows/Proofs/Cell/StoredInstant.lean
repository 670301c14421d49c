import TypedRows.Proofs.Calendar.Order
import TypedRows.Proofs.Cell.Admission
/-!
# Stored instants

A typed array stores an instant as a count of some unit since the start of 1970. `TimeUnit.Names` says which instant
that is, exactly, to the attosecond: years and months follow the calendar, the other units have a fixed length. Every
count names one as far as the calendar goes (`TimeUnit.exists_names`).

Out of its box a count of whole days is a date, and a count of a shorter unit down to the microsecond is an instant,
so that all of these are normalized to the milliseconds of the instant that they name. A count of a still shorter
unit comes out of its box as a bare integer, which is taken for milliseconds.

Main statement: `Cell.normalize_stored_iff`.
-/

namespace TypedRows

/-! ## Months of any year -/

theorem daysPerCycle_eq : daysPerCycle = 146097 := by decide

theorem isLeapYear_congr {year year' : Nat} (h : year % 400 = year' % 400) : isLeapYear year = isLeapYear year' := by
  have hiff : isLeapYear year = true ↔ isLeapYear year' = true := by
    rw [isLeapYear_iff, isLeapYear_iff]
    omega
  exact Bool.eq_iff_iff.2 hiff

theorem daysBeforeMonth_congr {year year' : Nat} (h : year % 400 = year' % 400) (month : Nat) :
    daysBeforeMonth year month = daysBeforeMonth year' month := by
  rw [daysBeforeMonth, daysBeforeMonth, monthLengths, monthLengths, isLeapYear_congr h]

/-- Every month has a first day. -/
theorem one_le_daysInMonth {year month : Nat} (hfirst : 1 ≤ month) (hlast : month ≤ 12) :
    1 ≤ daysInMonth year month := by
  have hlengths : ∀ n ∈ monthLengths year, 1 ≤ n := by
    unfold monthLengths
    split <;> decide
  have hlt : month - 1 < (monthLengths year).length := by
    rw [length_monthLengths]
    omega
  rw [daysInMonth, if_neg (by omega), List.getD_eq_getElem?_getD, List.getElem?_eq_getElem hlt, Option.getD_some]
  exact hlengths _ (List.getElem_mem hlt)

/-- The calendar repeats after a cycle. -/
theorem daysBeforeYear_add_cycles {year : Nat} (h : 1 ≤ year) (cycles : Nat) :
    daysBeforeYear (year + 400 * cycles) = daysBeforeYear year + cycles * daysPerCycle := by
  rw [daysPerCycle_eq]
  unfold daysBeforeYear
  omega

/-- From year 1 on, the days before a month are those before its year and those in the year. -/
theorem ProlepticDate.daysBefore_eq {year : Nat} (h : 1 ≤ year) (month : Nat) :
    ProlepticDate.daysBefore year month = daysBeforeYear year + daysBeforeMonth year month := by
  have hplace : (((year : Int) - 1).fmod 400).toNat + 1 = (year - 1) % 400 + 1 := by
    rw [Int.fmod_eq_emod_of_nonneg _ (by decide)]
    omega
  have hcycles : ((year : Int) - 1).fdiv 400 = ((year - 1) / 400 : Nat) := by
    rw [Int.fdiv_eq_ediv_of_nonneg _ (by decide)]
    omega
  have hyear : daysBeforeYear year =
      daysBeforeYear ((year - 1) % 400 + 1) + (year - 1) / 400 * daysPerCycle := by
    rw [← daysBeforeYear_add_cycles (by omega)]
    congr 1
    omega
  have hmonth : daysBeforeMonth ((year - 1) % 400 + 1) month = daysBeforeMonth year month :=
    daysBeforeMonth_congr (by omega) month
  rw [daysBefore, hplace, hcycles, hmonth, hyear, daysPerCycle_eq]
  omega

/-- A month is counted from January 1970. -/
theorem daysToMonth_eq {d : Date} (h : d.day = 1) :
    daysToMonth (12 * ((d.year : Int) - 1970) + (d.month - 1)) = (d.dayNumber : Int) - Date.epoch.dayNumber := by
  obtain ⟨hyear, -, hfirst, hlast, -, -⟩ := d.isDate
  have hdiv : (12 * ((d.year : Int) - 1970) + (d.month - 1)).fdiv 12 = d.year - 1970 := by
    rw [Int.fdiv_eq_ediv_of_nonneg _ (by decide)]
    omega
  have hmod : (12 * ((d.year : Int) - 1970) + (d.month - 1)).fmod 12 = ((d.month - 1 : Nat) : Int) := by
    rw [Int.fmod_eq_emod_of_nonneg _ (by decide)]
    omega
  have hmonth : d.month - 1 + 1 = d.month := by omega
  have hyear' : (1970 : Int) + (d.year - 1970) = d.year := by omega
  have hday : d.dayNumber = daysBeforeYear d.year + daysBeforeMonth d.year d.month := by
    rw [Date.dayNumber, h, Nat.sub_self, Nat.add_zero]
  rw [daysToMonth, hdiv, hmod, Int.toNat_natCast, hmonth, hyear', ProlepticDate.daysBefore_eq hyear, hday,
    Int.natCast_add]

/-! ## What a count names -/

def attosPerMicro : Int := 10 ^ 12

def attosPerMilli : Int := 10 ^ 15

/-- The attoseconds from the start of 1970 to an instant. -/
def DateTime.epochAttos (d : DateTime) : Int := ((d.micros : Int) - epoch.micros) * attosPerMicro

namespace TimeUnit

/-- The length in attoseconds of a unit that does not follow the calendar. -/
def length? : TimeUnit → Option Int
  | .year | .month => none
  | .week => some (7 * 86400 * 10 ^ 18)
  | .day => some (86400 * 10 ^ 18)
  | .hour => some (3600 * 10 ^ 18)
  | .minute => some (60 * 10 ^ 18)
  | .second => some (10 ^ 18)
  | .milli => some (10 ^ 15)
  | .micro => some (10 ^ 12)
  | .nano => some (10 ^ 9)
  | .pico => some (10 ^ 6)
  | .femto => some (10 ^ 3)
  | .atto => some 1

/-- The instant that a count of units names, in attoseconds since the start of 1970. A count of years or months names
the start of the first day. -/
inductive Names : TimeUnit → Int → Int → Prop where
  | year (d : Date) (hmonth : d.month = 1) (hday : d.day = 1) :
    Names .year ((d.year : Int) - 1970) (DateTime.ofDate d).epochAttos
  | month (d : Date) (hday : d.day = 1) :
    Names .month (12 * ((d.year : Int) - 1970) + (d.month - 1)) (DateTime.ofDate d).epochAttos
  | fixed {unit : TimeUnit} {length : Int} (hlength : unit.length? = some length) (count : Int) :
    Names unit count (count * length)

/-- The counts of years and of months that lie in the years 1 to 9999. -/
def countRange? : TimeUnit → Option (Int × Int)
  | .year => some (1 - 1970, 9999 - 1970)
  | .month => some (12 * (1 - 1970), 12 * (9999 - 1970) + 11)
  | _ => none

/-- Every count names a time; one of years or months as far as the calendar goes. -/
theorem exists_names (unit : TimeUnit) {count : Int}
    (h : ∀ range, unit.countRange? = some range → range.1 ≤ count ∧ count ≤ range.2) :
    ∃ attos, unit.Names count attos := by
  cases unit with
  | year =>
    obtain ⟨hlo, hhi⟩ := h _ rfl
    simp only at hlo hhi
    let d : Date := ⟨(1970 + count).toNat, 1, 1, by omega, by omega, by decide, by decide, by decide,
      one_le_daysInMonth (by decide) (by decide)⟩
    have hcount : count = (d.year : Int) - 1970 := by
      show count = ((1970 + count).toNat : Int) - 1970
      omega
    rw [hcount]
    exact ⟨_, .year d rfl rfl⟩
  | month =>
    obtain ⟨hlo, hhi⟩ := h _ rfl
    simp only at hlo hhi
    let d : Date := ⟨(1970 + count / 12).toNat, (count % 12).toNat + 1, 1, by omega, by omega, by omega, by omega,
      by decide, one_le_daysInMonth (by omega) (by omega)⟩
    have hcount : count = 12 * ((d.year : Int) - 1970) + (d.month - 1) := by
      show count = 12 * (((1970 + count / 12).toNat : Int) - 1970) + (((count % 12).toNat + 1 : Nat) - 1)
      omega
    rw [hcount]
    exact ⟨_, .month d rfl⟩
  | _ => exact ⟨_, .fixed rfl count⟩

/-- The unit is shorter than a microsecond. -/
def IsFine (unit : TimeUnit) : Prop := unit = .nano ∨ unit = .pico ∨ unit = .femto ∨ unit = .atto

end TimeUnit

/-- The time lies in the years 1 to 9999: it is in the microsecond of an instant of the calendar. -/
def InCalendar (attos : Int) : Prop := ∃ d : DateTime, (d.micros : Int) - DateTime.epoch.micros = attos.fdiv attosPerMicro

/-! ## Out of the box -/

theorem DateTime.micros_ofDate (d : Date) : (ofDate d).micros = d.dayNumber * microsPerDay := by
  simp [micros, ofDate, TimeOfDay.midnight, TimeOfDay.micros]

theorem DateTime.epochAttos_ofDate (d : Date) :
    (ofDate d).epochAttos = ((d.dayNumber : Int) - Date.epoch.dayNumber) * (microsPerDay * attosPerMicro) := by
  rw [epochAttos, micros_ofDate, epoch, micros_ofDate, Int.natCast_mul, Int.natCast_mul, ← Int.sub_mul, Int.mul_assoc]

/-- The milliseconds of a time are those of its instant. -/
theorem epochMillis_of_micros {attos : Int} {d : DateTime}
    (h : (d.micros : Int) - DateTime.epoch.micros = attos.fdiv attosPerMicro) :
    d.epochMillis = attos.fdiv attosPerMilli := by
  rw [DateTime.epochMillis, h, attosPerMicro, attosPerMilli, Int.fdiv_eq_ediv_of_nonneg _ (by decide),
    Int.fdiv_eq_ediv_of_nonneg _ (by decide), Int.fdiv_eq_ediv_of_nonneg _ (by decide)]
  omega

namespace TimeUnit

variable {unit : TimeUnit} {count attos : Int}

/-- A count of whole days names the start of a day. -/
theorem Names.eq_days (hdate : unit.isDate = true) (h : unit.Names count attos) :
    attos = unit.days count * (microsPerDay * attosPerMicro) := by
  cases h with
  | year d hmonth hday =>
    have hcount : 12 * ((d.year : Int) - 1970) = 12 * ((d.year : Int) - 1970) + (d.month - 1) := by omega
    rw [days, hcount, daysToMonth_eq hday, DateTime.epochAttos_ofDate]
  | month d hday => rw [days, daysToMonth_eq hday, DateTime.epochAttos_ofDate]
  | fixed hlength =>
    cases unit with
    | week =>
      cases hlength
      show count * _ = 7 * count * _
      unfold attosPerMicro microsPerDay microsPerSecond
      omega
    | day =>
      cases hlength
      show count * _ = count * _
      rfl
    | year | month => cases hlength
    | _ => cases hdate

/-- The units of a length from a microsecond to an hour have a whole number of microseconds. -/
theorem exists_micros? {length : Int} (hdate : unit.isDate = false) (hcoarse : ¬unit.IsFine)
    (hlength : unit.length? = some length) : ∃ n : Nat, unit.micros? = some n ∧ length = n * attosPerMicro := by
  cases unit with
  | year | month | week | day => cases hdate
  | nano | pico | femto | atto => exact absurd (by simp [IsFine]) hcoarse
  | _ =>
    cases hlength
    exact ⟨_, rfl, by decide⟩

theorem plainInstant_of_isFine (h : unit.IsFine) (count : Int) : plainInstant unit count = .int count := by
  rcases h with rfl | rfl | rfl | rfl <;> rfl

/-- A count of whole days comes out of its box as the date that it names. -/
theorem plainInstant_of_isDate {d : DateTime} (hdate : unit.isDate = true) (hnames : unit.Names count attos)
    (hd : (d.micros : Int) - DateTime.epoch.micros = attos.fdiv attosPerMicro) :
    plainInstant unit count = .date d.date ∧ d = .ofDate d.date := by
  have hdays : (d.micros : Int) - DateTime.epoch.micros = unit.days count * microsPerDay := by
    rw [hd, hnames.eq_days hdate, ← Int.mul_assoc, Int.mul_fdiv_cancel _ (by decide)]
  have hepoch : DateTime.epoch.micros = Date.epoch.dayNumber * microsPerDay := DateTime.micros_ofDate _
  have hmicros : (d.micros : Int) = (unit.days count + Date.epoch.dayNumber) * microsPerDay := by
    rw [Int.add_mul, ← hdays, hepoch, Int.natCast_mul, Int.sub_add_cancel]
  have hday : unit.days count + Date.epoch.dayNumber = d.date.dayNumber := by
    rw [← d.micros_div, Int.natCast_ediv, hmicros, Int.mul_ediv_cancel _ (by decide)]
  have hstart : d.micros = (DateTime.ofDate d.date).micros := by
    rw [← Int.natCast_inj, hmicros, hday, DateTime.micros_ofDate, Int.natCast_mul]
  refine ⟨?_, DateTime.micros_injective hstart⟩
  unfold plainInstant
  simp only [hdate, hday, ↓reduceIte, Int.toNat_natCast, Date.ofDayNumber?_dayNumber]
  rw [if_neg (by omega)]

/-- A count of a unit from a microsecond to an hour comes out of its box as the instant that it names. -/
theorem plainInstant_of_clock {d : DateTime} (hdate : unit.isDate = false) (hcoarse : ¬unit.IsFine)
    (hnames : unit.Names count attos) (hd : (d.micros : Int) - DateTime.epoch.micros = attos.fdiv attosPerMicro) :
    plainInstant unit count = .datetime d none := by
  cases hnames with
  | year | month => cases hdate
  | fixed hlength =>
    obtain ⟨n, hn, rfl⟩ := exists_micros? hdate hcoarse hlength
    rw [← Int.mul_assoc, Int.mul_fdiv_cancel _ (by decide)] at hd
    have hinstant : DateTime.ofEpochMicros? (count * n) = some d :=
      DateTime.ofMicros?_eq_some_iff.2 (by omega)
    unfold plainInstant
    simp only [hdate, Bool.false_eq_true, ↓reduceIte, hn, hinstant]

end TimeUnit

/-! ## Normalization -/

namespace Cell

variable {type : SqlType} {unit : TimeUnit} {count attos : Int}

/-- A count of a unit down to the microsecond is normalized to the milliseconds of the instant that it names. -/
theorem normalize_stored_of_coarse (htype : type.isTemporal = true) (hcoarse : ¬unit.IsFine)
    (hnames : unit.Names count attos) (hin : InCalendar attos) :
    ((Cell.boxed (.instant unit (some count))).normalize type).outcome = .ok (.int (attos.fdiv attosPerMilli)) := by
  obtain ⟨d, hd⟩ := hin
  rw [← epochMillis_of_micros hd, ← normalize_unboxed]
  show ((plainInstant unit count).normalize type).outcome = _
  cases hdate : unit.isDate with
  | true =>
    obtain ⟨hplain, hstart⟩ := unit.plainInstant_of_isDate hdate hnames hd
    rw [hplain, hstart]
    exact (Counts.date d.date).normalize htype
  | false =>
    rw [unit.plainInstant_of_clock hdate hcoarse hnames hd]
    exact (Counts.naive d).normalize htype

/-- A count of a unit below the microsecond is left as it is. -/
theorem normalize_stored_of_fine (htype : type.isTemporal = true) (hfine : unit.IsFine) (count : Int) :
    ((Cell.boxed (.instant unit (some count))).normalize type).outcome = .ok (.int count) := by
  rw [← normalize_unboxed]
  show ((plainInstant unit count).normalize type).outcome = _
  rw [unit.plainInstant_of_isFine hfine, normalize_temporal htype rfl rfl, toEpochMillis_of_asText? rfl]
  rfl

/-- A count of a unit below the microsecond is that of the milliseconds only around the start of 1970. -/
theorem fdiv_attosPerMilli_eq_iff (hfine : unit.IsFine) (hnames : unit.Names count attos) :
    attos.fdiv attosPerMilli = count ↔ count = 0 ∨ count = -1 := by
  cases hnames with
  | year | month => rcases hfine with h | h | h | h <;> cases h
  | fixed hlength =>
    rw [attosPerMilli, Int.fdiv_eq_ediv_of_nonneg _ (by decide)]
    rcases hfine with rfl | rfl | rfl | rfl <;> cases hlength <;> omega

/-- **Which stored instants keep their time.** A count that names a time of the calendar is normalized to the
milliseconds of this time, rounded down, exactly if its unit is at least a microsecond or the count is 0 or -1. All
units down to the microsecond agree on every time that they name. A count of a shorter unit is left as it is, so it is
taken for a count of milliseconds. -/
theorem normalize_stored_iff (htype : type.isTemporal = true) (hnames : unit.Names count attos)
    (hin : InCalendar attos) :
    (((Cell.boxed (.instant unit (some count))).normalize type).outcome = .ok (.int (attos.fdiv attosPerMilli)) ↔
      ¬unit.IsFine ∨ count = 0 ∨ count = -1) ∧
    (unit.IsFine → ((Cell.boxed (.instant unit (some count))).normalize type).outcome = .ok (.int count)) ∧
    ∀ (unit' : TimeUnit) (count' : Int), unit'.Names count' attos → ¬unit.IsFine → ¬unit'.IsFine →
      ((Cell.boxed (.instant unit' (some count'))).normalize type).outcome =
        ((Cell.boxed (.instant unit (some count))).normalize type).outcome := by
  refine ⟨?_, fun hfine => normalize_stored_of_fine htype hfine count, fun unit' count' hnames' hcoarse hcoarse' => ?_⟩
  · by_cases hfine : unit.IsFine
    · rw [normalize_stored_of_fine htype hfine, Except.ok.injEq, Cell.int.injEq, eq_comm,
        fdiv_attosPerMilli_eq_iff hfine hnames]
      simp [hfine]
    · simp [normalize_stored_of_coarse htype hfine hnames hin, hfine]
  · rw [normalize_stored_of_coarse htype hcoarse hnames hin, normalize_stored_of_coarse htype hcoarse' hnames' hin]

/-- The start of 2021 in seconds since the start of 1970. -/
def newYear : Int := 1609459200

/-- The start of 2021 in attoseconds since the start of 1970. -/
def newYearAttos : Int := newYear * 10 ^ 18

def newYearDay : Date := ⟨2021, 1, 1, by decide⟩

theorem inCalendar_newYearAttos : InCalendar newYearAttos := ⟨.ofDate newYearDay, by decide +kernel⟩

theorem fdiv_newYearAttos : newYearAttos.fdiv attosPerMilli = newYear * 1000 := by decide +kernel

theorem names_seconds_newYear : TimeUnit.second.Names newYear newYearAttos := .fixed rfl newYear

theorem names_nanos_newYear : TimeUnit.nano.Names (newYear * 10 ^ 9) newYearAttos :=
  .fixed (show TimeUnit.nano.length? = some (10 ^ 9) from rfl) (newYear * 10 ^ 9)

theorem names_years_newYear : TimeUnit.year.Names 51 newYearAttos := by
  have hattos : (DateTime.ofDate newYearDay).epochAttos = newYearAttos := by decide +kernel
  rw [← hattos]
  exact .year newYearDay rfl rfl

/-- The start of 2021 in seconds keeps its time, and is the same in years. -/
theorem normalize_stored_newYear :
    (SqlType.timestamp.isTemporal = true ∧ TimeUnit.second.Names newYear newYearAttos ∧ InCalendar newYearAttos) ∧
      ((Cell.boxed (.instant .second (some newYear))).normalize .timestamp).outcome = .ok (.int (newYear * 1000)) ∧
      ((Cell.boxed (.instant .year (some 51))).normalize .timestamp).outcome =
        ((Cell.boxed (.instant .second (some newYear))).normalize .timestamp).outcome := by
  obtain ⟨hkeeps, -, hagree⟩ :=
    normalize_stored_iff (show SqlType.timestamp.isTemporal = true from rfl) names_seconds_newYear
      inCalendar_newYearAttos
  rw [fdiv_newYearAttos] at hkeeps
  exact ⟨⟨rfl, names_seconds_newYear, inCalendar_newYearAttos⟩, hkeeps.2 (.inl (by simp [TimeUnit.IsFine])),
    hagree .year 51 names_years_newYear (by simp [TimeUnit.IsFine]) (by simp [TimeUnit.IsFine])⟩

/-- The start of 2021 in nanoseconds does not keep its time, and is another count than in seconds. -/
theorem normalize_stored_nanos_ne :
    (TimeUnit.nano.Names (newYear * 10 ^ 9) newYearAttos ∧ TimeUnit.second.Names newYear newYearAttos ∧
      InCalendar newYearAttos) ∧
      ((Cell.boxed (.instant .nano (some (newYear * 10 ^ 9)))).normalize .timestamp).outcome ≠
        .ok (.int (newYearAttos.fdiv attosPerMilli)) ∧
      ((Cell.boxed (.instant .nano (some (newYear * 10 ^ 9)))).normalize .timestamp).outcome ≠
        ((Cell.boxed (.instant .second (some newYear))).normalize .timestamp).outcome := by
  have hcount : newYear * 10 ^ 9 ≠ newYear * 1000 := by decide
  have hfine : TimeUnit.nano.IsFine := .inl rfl
  have hcoarse : ¬TimeUnit.second.IsFine := by simp [TimeUnit.IsFine]
  refine ⟨⟨names_nanos_newYear, names_seconds_newYear, inCalendar_newYearAttos⟩, ?_, ?_⟩
  · rw [normalize_stored_of_fine rfl hfine, fdiv_newYearAttos]
    simpa using hcount
  · rw [normalize_stored_of_fine rfl hfine,
      normalize_stored_of_coarse rfl hcoarse names_seconds_newYear inCalendar_newYearAttos, fdiv_newYearAttos]
    simpa using hcount

end Cell

end TypedRows
