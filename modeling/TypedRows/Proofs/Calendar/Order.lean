import TypedRows.Proofs.Calendar.EpochMillis
/-!
# The order of the calendar

Of two instants the one comes first that has the smaller year, or in the same year the smaller month, and so on
down to the microsecond: this is the order of their `numbers`. The counts follow it. A day of a year is counted
before every day of a later year, a day of a month before every day of a later month, so microseconds are counted
in the order of the calendar (`DateTime.micros_lt_micros_iff`), and milliseconds as far as they tell instants
apart (`DateTime.epochMillis_le_of_numbers_lt`, `DateTime.epochMillis_eq_iff`).
-/

namespace TypedRows

/-! ## Dates -/

/-- A day of a month comes before the first day of every later month of the year. -/
theorem daysBeforeMonth_add_lt {year month month' day : Nat} (hmonth : 1 ≤ month) (hlt : month < month')
    (hday : day < daysInMonth year month) : daysBeforeMonth year month + day < daysBeforeMonth year month' := by
  rw [daysInMonth, if_neg (by omega)] at hday
  have hin : day < ((monthLengths year).take (month' - 1)).getD (month - 1) 0 := by
    rwa [List.getD_eq_getElem?_getD, List.getElem?_take, if_pos (by omega), ← List.getD_eq_getElem?_getD]
  have hsum := sum_take_add_lt hin
  rwa [List.take_take, Nat.min_eq_left (by omega), ← daysBeforeMonth_eq, ← daysBeforeMonth_eq] at hsum

namespace Date

/-- The numbers of a date, the year first. -/
def numbers (d : Date) : List Nat := [d.year, d.month, d.day]

theorem numbers_inj {d d' : Date} : d.numbers = d'.numbers ↔ d = d' := by
  obtain ⟨year, month, day, h⟩ := d
  obtain ⟨year', month', day', h'⟩ := d'
  simp [numbers]

/-- **Days are counted in the order of the calendar.** -/
theorem dayNumber_lt_of_numbers_lt {d d' : Date} (h : d.numbers < d'.numbers) : d.dayNumber < d'.dayNumber := by
  obtain ⟨hy, _, hm, _, hd, hlast⟩ := d.isDate
  have hd' := d'.isDate.2.2.2.2.1
  simp only [numbers, List.cons_lt_cons_iff, List.lt_irrefl, and_false, or_false] at h
  rcases h with hyear | ⟨hyear, hmonth | ⟨hmonth, hday⟩⟩
  · have hnext := daysBeforeYear_mono (by omega) (show d.year + 1 ≤ d'.year from hyear)
    have hin := d.dayNumber_lt_daysBeforeYear_succ
    have hfirst := d'.daysBeforeYear_le_dayNumber
    omega
  · have hnext := daysBeforeMonth_add_lt hm hmonth (show d.day - 1 < daysInMonth d.year d.month by omega)
    rw [dayNumber, dayNumber, ← hyear]
    omega
  · rw [dayNumber, dayNumber, ← hyear, ← hmonth]
    omega

end Date

/-! ## Times -/

namespace TimeOfDay

def numbers (t : TimeOfDay) : List Nat := [t.hour, t.minute, t.second, t.micro]

theorem numbers_inj {t t' : TimeOfDay} : t.numbers = t'.numbers ↔ t = t' := by
  obtain ⟨hour, minute, second, micro, h⟩ := t
  obtain ⟨hour', minute', second', micro', h'⟩ := t'
  simp [numbers]

theorem micros_lt_of_numbers_lt {t t' : TimeOfDay} (h : t.numbers < t'.numbers) : t.micros < t'.micros := by
  obtain ⟨_, _, _, _⟩ := t.isTime
  simp only [numbers, List.cons_lt_cons_iff, List.lt_irrefl, and_false, or_false] at h
  unfold micros microsPerSecond
  omega

/-- The time with whole milliseconds, rounded down. -/
def wholeMillis (t : TimeOfDay) : TimeOfDay where
  hour := t.hour
  minute := t.minute
  second := t.second
  micro := t.micro / 1000 * 1000
  isTime := by
    obtain ⟨hhour, hminute, hsecond, hmicro⟩ := t.isTime
    exact ⟨hhour, hminute, hsecond, by omega⟩

theorem micros_wholeMillis (t : TimeOfDay) : t.wholeMillis.micros = t.micros / 1000 * 1000 := by
  simp only [wholeMillis, micros, microsPerSecond]
  omega

end TimeOfDay

/-! ## Instants -/

namespace DateTime

def numbers (d : DateTime) : List Nat := d.date.numbers ++ d.time.numbers

theorem numbers_inj {d d' : DateTime} : d.numbers = d'.numbers ↔ d = d' := by
  constructor
  · intro h
    obtain ⟨date, time⟩ := d
    obtain ⟨date', time'⟩ := d'
    obtain ⟨hdates, htimes⟩ := List.append_inj h rfl
    have hdate : date = date' := Date.numbers_inj.1 hdates
    have htime : time = time' := TimeOfDay.numbers_inj.1 htimes
    rw [hdate, htime]
  · rintro rfl
    rfl

/-- Dates are compared first, and times on the same date. -/
theorem numbers_lt_iff {d d' : DateTime} : d.numbers < d'.numbers ↔
    d.date.numbers < d'.date.numbers ∨ d.date = d'.date ∧ d.time.numbers < d'.time.numbers := by
  rw [← Date.numbers_inj]
  simp only [numbers, Date.numbers, List.cons_append, List.nil_append, List.cons_lt_cons_iff, List.lt_irrefl,
    and_false, or_false, List.cons.injEq, and_true]
  grind

theorem micros_lt_of_numbers_lt {d d' : DateTime} (h : d.numbers < d'.numbers) : d.micros < d'.micros := by
  have htime := d.time.micros_lt
  rcases numbers_lt_iff.1 h with hdate | ⟨hdate, hearlier⟩
  · have hday := Nat.mul_le_mul_right microsPerDay (Date.dayNumber_lt_of_numbers_lt hdate)
    rw [Nat.succ_mul] at hday
    unfold micros
    omega
  · have hmicros := TimeOfDay.micros_lt_of_numbers_lt hearlier
    rw [micros, micros, hdate]
    omega

/-- **Microseconds are counted in the order of the calendar.** -/
theorem micros_lt_micros_iff {d d' : DateTime} : d.micros < d'.micros ↔ d.numbers < d'.numbers := by
  constructor
  · intro h
    by_cases hlt : d.numbers < d'.numbers
    · exact hlt
    · rcases List.le_iff_lt_or_eq.1 (List.not_lt.1 hlt) with hgt | heq
      · have := micros_lt_of_numbers_lt hgt
        omega
      · rw [numbers_inj.1 heq] at h
        omega
  · exact micros_lt_of_numbers_lt

theorem micros_injective {d d' : DateTime} (h : d.micros = d'.micros) : d = d' := by
  have hd := ofMicros?_micros d
  rw [h, ofMicros?_micros] at hd
  exact (Option.some.inj hd).symm

/-! ## Milliseconds -/

def wholeMillis (d : DateTime) : DateTime := ⟨d.date, d.time.wholeMillis⟩

theorem micros_wholeMillis (d : DateTime) : d.wholeMillis.micros = d.micros / 1000 * 1000 := by
  simp only [micros, wholeMillis, TimeOfDay.micros_wholeMillis, microsPerDay, microsPerSecond]
  omega

theorem epochMillis_eq (d : DateTime) : d.epochMillis = (d.micros / 1000 : Nat) - 62135596800000 := by
  rw [epochMillis, Int.fdiv_eq_ediv_of_nonneg _ (by decide), micros_epoch]
  omega

/-- **The count of an instant gives the instant back**, as far as its whole milliseconds. -/
theorem ofEpochMicros?_epochMillis (d : DateTime) :
    ofEpochMicros? (d.epochMillis * 1000) = some d.wholeMillis := by
  rw [ofEpochMicros?, ofMicros?_eq_some_iff, micros_wholeMillis, epochMillis_eq, micros_epoch]
  omega

/-- Two instants have the same count if they lie in the same millisecond. -/
theorem epochMillis_eq_iff {d d' : DateTime} : d.epochMillis = d'.epochMillis ↔ d.wholeMillis = d'.wholeMillis := by
  constructor
  · intro h
    have hback := ofEpochMicros?_epochMillis d
    rw [h, ofEpochMicros?_epochMillis] at hback
    exact (Option.some.inj hback).symm
  · intro h
    have hmicros := congrArg micros h
    rw [micros_wholeMillis, micros_wholeMillis] at hmicros
    rw [epochMillis_eq, epochMillis_eq]
    omega

/-- An earlier instant never has a larger count. -/
theorem epochMillis_le_of_numbers_lt {d d' : DateTime} (h : d.numbers < d'.numbers) :
    d.epochMillis ≤ d'.epochMillis := by
  have hmicros := micros_lt_of_numbers_lt h
  rw [epochMillis_eq, epochMillis_eq]
  omega

def first : DateTime := ofDate ⟨1, 1, 1, by decide⟩

def last : DateTime := ⟨⟨9999, 12, 31, by decide⟩, ⟨23, 59, 59, 999999, by decide⟩⟩

theorem epochMillis_first : first.epochMillis = minEpochMillis := by decide

theorem epochMillis_last : last.epochMillis = maxEpochMillis := by decide

end DateTime

end TypedRows
