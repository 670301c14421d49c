import Mathlib.Algebra.GroupWithZero.Nat
import TypedRows.Calendar.Date
/-!
# Dates and day numbers

The days of the calendar are numbered without gaps: `Date.dayNumber` and `Date.ofDayNumber?` are inverse to
each other (`Date.ofDayNumber?_eq_some_iff`), and the numbers that have a date are those below `dayCount`
(`Date.exists_ofDayNumber?_iff`).

The year of a day is found from an estimate, which `yearOfDay_spec` shows to end at the right year. The month is
found by walking along the lengths of the months; `locate_spec` and `locate_take_sum` are the two directions of
this walk for any list of lengths.
-/

namespace TypedRows

/-! ## Years -/

theorem succ_div_eq (k d : Nat) :
    (k + 1) / d = k / d + if (k + 1) % d = 0 then 1 else 0 := by
  rw [Nat.succ_div]
  simp only [Nat.dvd_iff_mod_eq_zero]

theorem isLeapYear_iff (year : Nat) :
    isLeapYear year = true ↔ year % 4 = 0 ∧ (year % 100 ≠ 0 ∨ year % 400 = 0) := by
  simp [isLeapYear]

theorem daysBeforeYear_succ {year : Nat} (h : 1 ≤ year) :
    daysBeforeYear (year + 1) = daysBeforeYear year + daysInYear year := by
  obtain ⟨k, rfl⟩ : ∃ k, year = k + 1 := ⟨year - 1, by omega⟩
  have h100 : k / 100 ≤ k / 4 := by omega
  have h4 : (k + 1) % 100 = 0 → (k + 1) % 4 = 0 := by omega
  have h400 : (k + 1) % 400 = 0 → (k + 1) % 100 = 0 := by omega
  have hleap := isLeapYear_iff (k + 1)
  simp only [daysBeforeYear, daysInYear, Nat.add_sub_cancel, hleap]
  rw [succ_div_eq k 4, succ_div_eq k 100, succ_div_eq k 400]
  generalize k / 4 = a at *
  generalize k / 100 = b at *
  generalize k / 400 = c at *
  generalize (k + 1) % 4 = r4 at *
  generalize (k + 1) % 100 = r100 at *
  generalize (k + 1) % 400 = r400 at *
  by_cases e4 : r4 = 0 <;> by_cases e100 : r100 = 0 <;> by_cases e400 : r400 = 0 <;>
    simp_all <;> omega

theorem daysBeforeYear_lt {year year' : Nat} (h : 1 ≤ year) (hlt : year < year') :
    daysBeforeYear year < daysBeforeYear year' := by
  unfold daysBeforeYear
  omega

theorem daysBeforeYear_mono {year year' : Nat} (h : 1 ≤ year) (hle : year ≤ year') :
    daysBeforeYear year ≤ daysBeforeYear year' := by
  rcases Nat.lt_or_eq_of_le hle with hlt | rfl
  · exact Nat.le_of_lt (daysBeforeYear_lt h hlt)
  · exact Nat.le_refl _

/-- The estimate of the year is corrected to the year in which the day lies. -/
theorem yearOfDay_spec (n : Nat) :
    1 ≤ Date.yearOfDay n ∧ daysBeforeYear (Date.yearOfDay n) ≤ n ∧
      n < daysBeforeYear (Date.yearOfDay n + 1) := by
  have hq1 : n * 400 / 146097 * 146097 ≤ n * 400 := Nat.div_mul_le_self _ _
  have hq2 : n * 400 < (n * 400 / 146097 + 1) * 146097 := by omega
  simp only [Date.yearOfDay]
  generalize n * 400 / 146097 = k at hq1 hq2
  unfold daysBeforeYear
  split
  · omega
  · split <;> omega

/-- A day belongs to one year only. -/
theorem yearOfDay_eq {n year : Nat} (h : 1 ≤ year) (hlo : daysBeforeYear year ≤ n)
    (hhi : n < daysBeforeYear (year + 1)) : Date.yearOfDay n = year := by
  obtain ⟨h1, hlo', hhi'⟩ := yearOfDay_spec n
  rcases Nat.lt_trichotomy (Date.yearOfDay n) year with hlt | heq | hgt
  · have := daysBeforeYear_mono (by omega) (show Date.yearOfDay n + 1 ≤ year from hlt)
    omega
  · exact heq
  · have := daysBeforeYear_mono (by omega) (show year + 1 ≤ Date.yearOfDay n from hgt)
    omega

/-! ## Months -/

theorem daysBeforeMonth_eq (year month : Nat) :
    daysBeforeMonth year month = ((monthLengths year).take (month - 1)).sum := rfl

theorem length_monthLengths (year : Nat) : (monthLengths year).length = 12 := rfl

theorem sum_monthLengths (year : Nat) : (monthLengths year).sum = daysInYear year := by
  unfold monthLengths daysInYear
  split <;> rfl

/-- A place inside the lengths taken together is a place inside one of them. -/
theorem locate_spec : ∀ (lengths : List Nat) (n : Nat), n < lengths.sum →
    (Date.locate lengths n).1 < lengths.length ∧
      (Date.locate lengths n).2 < lengths.getD (Date.locate lengths n).1 0 ∧
      (lengths.take (Date.locate lengths n).1).sum + (Date.locate lengths n).2 = n
  | [], n, h => by simp at h
  | length :: rest, n, h => by
    simp only [Date.locate]
    by_cases hn : n < length
    · simp [hn]
    · simp only [List.sum_cons] at h
      obtain ⟨h1, h2, h3⟩ := locate_spec rest (n - length) (by omega)
      simp only [hn, ↓reduceIte]
      refine ⟨by simpa using h1, by simpa using h2, ?_⟩
      simp only [List.take_succ_cons, List.sum_cons]
      omega

/-- A place inside one of the lengths is found again from its distance to the start of the first. -/
theorem locate_take_sum : ∀ (lengths : List Nat) (i r : Nat), r < lengths.getD i 0 →
    Date.locate lengths ((lengths.take i).sum + r) = (i, r)
  | [], i, r, h => by simp at h
  | length :: rest, 0, r, h => by
    have hr : r < length := by simpa using h
    simp [Date.locate, hr]
  | length :: rest, i + 1, r, h => by
    have ih := locate_take_sum rest i r (by simpa using h)
    have hge : ¬ (length + (rest.take i).sum + r < length) := by omega
    have hsub : length + (rest.take i).sum + r - length = (rest.take i).sum + r := by omega
    simp only [List.take_succ_cons, List.sum_cons, Date.locate, hge, ↓reduceIte, hsub, ih]

theorem sum_take_add_lt {lengths : List Nat} {i r : Nat} (h : r < lengths.getD i 0) :
    (lengths.take i).sum + r < lengths.sum := by
  have hi : i < lengths.length := by
    rcases Nat.lt_or_ge i lengths.length with hlt | hge
    · exact hlt
    · simp [List.getD_eq_getElem?_getD, List.getElem?_eq_none hge] at h
  have hsplit := congrArg List.sum (List.take_append_drop i lengths)
  rw [List.drop_eq_getElem_cons hi, List.sum_append, List.sum_cons] at hsplit
  rw [List.getD_eq_getElem?_getD, List.getElem?_eq_getElem hi, Option.getD_some] at h
  omega

/-! ## Dates -/

/-- The days from the start of year 1 to the end of year 9999. -/
def dayCount : Nat := daysBeforeYear 10000

namespace Date

theorem ofNumbers?_eq_some_iff {year month day : Nat} {d : Date} :
    ofNumbers? year month day = some d ↔ d.year = year ∧ d.month = month ∧ d.day = day := by
  unfold ofNumbers?
  constructor
  · intro h
    split at h
    · cases h
      exact ⟨rfl, rfl, rfl⟩
    · cases h
  · rintro ⟨rfl, rfl, rfl⟩
    rw [dif_pos d.isDate]

/-- The place of a date in its year. -/
theorem dayInYear_lt (d : Date) :
    daysBeforeMonth d.year d.month + (d.day - 1) < daysInYear d.year := by
  obtain ⟨_, _, hm1, _, hd1, hd2⟩ := d.isDate
  rw [← sum_monthLengths, daysBeforeMonth_eq]
  apply sum_take_add_lt
  rw [daysInMonth, if_neg (by omega)] at hd2
  omega

theorem daysBeforeYear_le_dayNumber (d : Date) : daysBeforeYear d.year ≤ d.dayNumber := by
  unfold dayNumber
  omega

theorem dayNumber_lt_daysBeforeYear_succ (d : Date) : d.dayNumber < daysBeforeYear (d.year + 1) := by
  have h := d.dayInYear_lt
  rw [daysBeforeYear_succ d.isDate.1]
  unfold dayNumber
  omega

theorem yearOfDay_dayNumber (d : Date) : yearOfDay d.dayNumber = d.year :=
  yearOfDay_eq d.isDate.1 d.daysBeforeYear_le_dayNumber d.dayNumber_lt_daysBeforeYear_succ

theorem ofDayNumber?_dayNumber (d : Date) : ofDayNumber? d.dayNumber = some d := by
  obtain ⟨_, _, hm1, _, hd1, hd2⟩ := d.isDate
  have hplace : d.dayNumber - daysBeforeYear d.year =
      ((monthLengths d.year).take (d.month - 1)).sum + (d.day - 1) := by
    rw [dayNumber, daysBeforeMonth_eq]
    omega
  have hday : d.day - 1 < (monthLengths d.year).getD (d.month - 1) 0 := by
    rw [daysInMonth, if_neg (by omega)] at hd2
    omega
  simp only [ofDayNumber?, yearOfDay_dayNumber, hplace, locate_take_sum _ _ _ hday]
  exact ofNumbers?_eq_some_iff.2 ⟨rfl, by omega, by omega⟩

theorem dayNumber_of_ofDayNumber? {n : Nat} {d : Date} (h : ofDayNumber? n = some d) :
    d.dayNumber = n := by
  obtain ⟨h1, hlo, hhi⟩ := yearOfDay_spec n
  obtain ⟨hy, hm, hd⟩ := ofNumbers?_eq_some_iff.1 h
  rw [daysBeforeYear_succ h1, ← sum_monthLengths] at hhi
  obtain ⟨_, _, hsum⟩ := locate_spec (monthLengths (yearOfDay n)) (n - daysBeforeYear (yearOfDay n)) (by omega)
  rw [dayNumber, daysBeforeMonth_eq, hy, hm, hd, Nat.add_sub_cancel, Nat.add_sub_cancel]
  omega

theorem ofDayNumber?_eq_some_iff {n : Nat} {d : Date} : ofDayNumber? n = some d ↔ d.dayNumber = n :=
  ⟨dayNumber_of_ofDayNumber?, fun h => h ▸ ofDayNumber?_dayNumber d⟩

theorem dayNumber_injective {d d' : Date} (h : d.dayNumber = d'.dayNumber) : d = d' := by
  have hd := ofDayNumber?_dayNumber d
  rw [h, ofDayNumber?_dayNumber] at hd
  exact (Option.some.inj hd).symm

theorem dayNumber_lt (d : Date) : d.dayNumber < dayCount := by
  have hlt := d.dayNumber_lt_daysBeforeYear_succ
  have hy : d.year + 1 ≤ 10000 := by
    have := d.isDate.2.1
    omega
  exact Nat.lt_of_lt_of_le hlt (daysBeforeYear_mono (by omega) hy)

/-- Every number below `dayCount` is the number of a date. -/
theorem exists_ofDayNumber? {n : Nat} (h : n < dayCount) : ∃ d, ofDayNumber? n = some d := by
  obtain ⟨h1, hlo, hhi⟩ := yearOfDay_spec n
  have hyear : yearOfDay n ≤ 9999 := by
    rcases Nat.lt_or_ge (yearOfDay n) 10000 with hlt | hge
    · omega
    · have := daysBeforeYear_mono (by omega) hge
      rw [dayCount] at h
      omega
  rw [daysBeforeYear_succ h1, ← sum_monthLengths] at hhi
  obtain ⟨hi, hr, _⟩ := locate_spec (monthLengths (yearOfDay n)) (n - daysBeforeYear (yearOfDay n)) (by omega)
  rw [length_monthLengths] at hi
  have hdate : IsDate (yearOfDay n)
      ((locate (monthLengths (yearOfDay n)) (n - daysBeforeYear (yearOfDay n))).1 + 1)
      ((locate (monthLengths (yearOfDay n)) (n - daysBeforeYear (yearOfDay n))).2 + 1) := by
    refine ⟨h1, hyear, by omega, by omega, by omega, ?_⟩
    rw [daysInMonth, if_neg (by omega), Nat.add_sub_cancel]
    omega
  exact ⟨⟨_, _, _, hdate⟩, ofNumbers?_eq_some_iff.2 ⟨rfl, rfl, rfl⟩⟩

theorem exists_ofDayNumber?_iff {n : Nat} : (∃ d, ofDayNumber? n = some d) ↔ n < dayCount := by
  constructor
  · rintro ⟨d, h⟩
    rw [← dayNumber_of_ofDayNumber? h]
    exact d.dayNumber_lt
  · exact exists_ofDayNumber?

end Date

example : dayCount = 3652059 := by decide

end TypedRows
