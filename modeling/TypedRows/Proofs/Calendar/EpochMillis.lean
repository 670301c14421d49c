import TypedRows.Calendar.Time
import TypedRows.Proofs.Calendar.DayNumber
/-!
# Instants and their counts

An instant is determined by its microseconds since the start of year 1, and `DateTime.ofMicros?` finds it again
(`DateTime.ofMicros?_eq_some_iff`). On epoch milliseconds this gives that a count names an instant exactly between
`minEpochMillis` and `maxEpochMillis` (`DateTime.exists_ofEpochMicros?_iff`), and that the instant has this count
(`DateTime.epochMillis_of_ofEpochMicros?`). The date of the instant keeps the whole days of the count and the time
keeps the rest (`DateTime.epochMillis_date`, `DateTime.millis_time`), before 1970 as well as after.
-/

namespace TypedRows

/-! ## Times of day -/

namespace TimeOfDay

theorem micros_lt (t : TimeOfDay) : t.micros < microsPerDay := by
  obtain ⟨h1, h2, h3, h4⟩ := t.isTime
  unfold micros microsPerDay microsPerSecond
  omega

theorem micros_ofMicros (n : Nat) : (ofMicros n).micros = n % microsPerDay := by
  simp only [ofMicros, micros, microsPerDay, microsPerSecond]
  omega

theorem ofMicros_micros (t : TimeOfDay) : ofMicros t.micros = t := by
  obtain ⟨hour, minute, second, micro, h1, h2, h3, h4⟩ := t
  simp only [ofMicros, micros, microsPerSecond]
  congr 1 <;> omega

/-- A time without an offset counts at most the milliseconds of a day. -/
theorem millis_none (t : TimeOfDay) : t.millis none = ((t.micros / 1000 : Nat) : Int) := by
  unfold millis
  rw [Int.fdiv_eq_ediv_of_nonneg _ (by decide), Option.getD_none]
  omega

end TimeOfDay

/-! ## Instants -/

namespace DateTime

theorem micros_div (d : DateTime) : d.micros / microsPerDay = d.date.dayNumber := by
  have h := d.time.micros_lt
  unfold micros microsPerDay microsPerSecond at *
  omega

theorem micros_mod (d : DateTime) : d.micros % microsPerDay = d.time.micros := by
  have h := d.time.micros_lt
  unfold micros microsPerDay microsPerSecond at *
  omega

theorem ofMicros?_micros (d : DateTime) : ofMicros? d.micros = some d := by
  unfold ofMicros?
  rw [if_neg (by omega), Int.toNat_natCast, micros_div, micros_mod, Date.ofDayNumber?_dayNumber,
    Option.map_some, TimeOfDay.ofMicros_micros]

theorem micros_of_ofMicros? {n : Int} {d : DateTime} (h : ofMicros? n = some d) : (d.micros : Int) = n := by
  unfold ofMicros? at h
  split at h
  · cases h
  · obtain ⟨date, hdate, rfl⟩ := Option.map_eq_some_iff.1 h
    have hday := Date.dayNumber_of_ofDayNumber? hdate
    have hsplit := Nat.div_add_mod n.toNat microsPerDay
    rw [Nat.mul_comm] at hsplit
    unfold micros
    rw [hday, TimeOfDay.micros_ofMicros, Nat.mod_mod]
    omega

theorem ofMicros?_eq_some_iff {n : Int} {d : DateTime} : ofMicros? n = some d ↔ (d.micros : Int) = n :=
  ⟨micros_of_ofMicros?, fun h => h ▸ ofMicros?_micros d⟩

theorem exists_ofMicros?_iff {n : Int} :
    (∃ d, ofMicros? n = some d) ↔ 0 ≤ n ∧ n < (dayCount * microsPerDay : Nat) := by
  constructor
  · rintro ⟨d, h⟩
    have hn := micros_of_ofMicros? h
    have hday := d.date.dayNumber_lt
    have htime := d.time.micros_lt
    have hle : (d.date.dayNumber + 1) * microsPerDay ≤ dayCount * microsPerDay := Nat.mul_le_mul_right _ hday
    rw [Nat.add_mul, Nat.one_mul] at hle
    have hlt : d.micros < dayCount * microsPerDay := by
      unfold micros
      omega
    omega
  · rintro ⟨h0, hlt⟩
    have hday : n.toNat / microsPerDay < dayCount := by
      rw [Nat.div_lt_iff_lt_mul (by decide)]
      omega
    obtain ⟨date, hdate⟩ := Date.exists_ofDayNumber? hday
    refine ⟨⟨date, .ofMicros (n.toNat % microsPerDay)⟩, ?_⟩
    unfold ofMicros?
    rw [if_neg (by omega), hdate, Option.map_some]

/-! ## Epoch milliseconds -/

theorem micros_epoch : epoch.micros = 62135596800000000 := by decide

theorem dayCount_mul_microsPerDay : dayCount * microsPerDay = 315537897600000000 := by decide

/-- **The range of epoch milliseconds**: exactly the counts between the two bounds name an instant. -/
theorem exists_ofEpochMicros?_iff {millis : Int} :
    (∃ d, ofEpochMicros? (millis * 1000) = some d) ↔ minEpochMillis ≤ millis ∧ millis ≤ maxEpochMillis := by
  unfold ofEpochMicros? minEpochMillis maxEpochMillis
  rw [exists_ofMicros?_iff, dayCount_mul_microsPerDay, micros_epoch]
  omega

theorem ofEpochMicros?_eq_none_iff {millis : Int} :
    ofEpochMicros? (millis * 1000) = none ↔ ¬ (minEpochMillis ≤ millis ∧ millis ≤ maxEpochMillis) := by
  rw [← exists_ofEpochMicros?_iff, Option.eq_none_iff_forall_ne_some]
  simp

variable {millis : Int} {d : DateTime}

theorem micros_of_ofEpochMicros? (h : ofEpochMicros? (millis * 1000) = some d) :
    (d.micros : Int) = millis * 1000 + epoch.micros :=
  micros_of_ofMicros? h

theorem epochMillis_of_ofEpochMicros? (h : ofEpochMicros? (millis * 1000) = some d) :
    d.epochMillis = millis := by
  have hm := micros_of_ofEpochMicros? h
  unfold epochMillis
  rw [Int.fdiv_eq_ediv_of_nonneg _ (by decide)]
  omega

/-- The date of an instant begins at the last multiple of a day. -/
theorem epochMillis_date (h : ofEpochMicros? (millis * 1000) = some d) :
    (ofDate d.date).epochMillis = millis - millis % millisPerDay := by
  have hm := micros_of_ofEpochMicros? h
  have htime := d.time.micros_lt
  have hdate : (ofDate d.date).micros = d.date.dayNumber * microsPerDay := by
    simp [micros, ofDate, TimeOfDay.midnight, TimeOfDay.micros]
  unfold epochMillis
  rw [hdate, Int.fdiv_eq_ediv_of_nonneg _ (by decide), micros_epoch]
  rw [micros_epoch] at hm
  unfold micros at hm
  unfold microsPerDay microsPerSecond at *
  unfold millisPerDay
  omega

/-- The time of an instant is what the count has beyond whole days. -/
theorem millis_time (h : ofEpochMicros? (millis * 1000) = some d) :
    d.time.millis none = millis % millisPerDay := by
  have hm := micros_of_ofEpochMicros? h
  have htime := d.time.micros_lt
  rw [TimeOfDay.millis_none]
  rw [micros_epoch] at hm
  unfold micros at hm
  unfold microsPerDay microsPerSecond at *
  unfold millisPerDay
  omega

theorem minEpochMillis_le (d : DateTime) : minEpochMillis ≤ d.epochMillis := by
  unfold epochMillis minEpochMillis
  rw [Int.fdiv_eq_ediv_of_nonneg _ (by decide), micros_epoch]
  omega

theorem epochMillis_le_max (d : DateTime) : d.epochMillis ≤ maxEpochMillis := by
  have hlt := (exists_ofMicros?_iff.1 ⟨d, ofMicros?_micros d⟩).2
  rw [dayCount_mul_microsPerDay] at hlt
  unfold epochMillis maxEpochMillis
  rw [Int.fdiv_eq_ediv_of_nonneg _ (by decide), micros_epoch]
  omega

end DateTime

end TypedRows
