import TypedRows.Proofs.Number.Rounding
/-!
# Integers that doubles keep

An integer below the greatest double has a nearest double, and `throughDouble` is what is left of the integer when
that double is read as an integer again. It has at most 53 significant bits (`fitsDouble_throughDouble`), so exactly
the integers of so few bits are kept (`throughDouble_eq_iff`).
-/

namespace TypedRows

/-- The integer is written with at most 53 bits before some zeros. -/
def FitsDouble (i : Int) : Prop := ∃ a j, a < 2 ^ 53 ∧ i.natAbs = a * 2 ^ j

/-- The integer that is left of an integer after it was stored as a double. -/
def throughDouble (i : Int) : Int := ((Binary.ofInt i : Double).truncate?).getD 0

theorem fitsDouble_of_lt {i : Int} (h : i.natAbs < 2 ^ 53) : FitsDouble i := ⟨i.natAbs, 0, h, by simp⟩

/-- A magnitude that is cut down to an integer has few bits. -/
theorem units_div_eq (m : Nat) : ∃ a j, a < 2 ^ 53 ∧ Format.double.units m / 2 ^ Format.double.scale = a * 2 ^ j := by
  have hfull : 2 * Format.double.binade = 2 ^ 53 := rfl
  generalize hscale : Format.double.scale = scale
  rcases Format.cases_of_binade .double m with hm | ⟨e, h, hlo, hhi, rfl⟩
  · -- Below the binades the quotient is zero, but it is enough that it is small.
    refine ⟨Format.double.units m / 2 ^ scale, 0, Nat.lt_of_le_of_lt (Nat.div_le_self _ _) ?_, by simp⟩
    rw [Format.units_of_lt hm]
    omega
  · rw [Format.units_add hlo hhi]
    rcases Nat.le_total scale e with he | he
    · obtain ⟨j, rfl⟩ := Nat.exists_eq_add_of_le he
      refine ⟨h, j, by omega, ?_⟩
      rw [Nat.pow_add, Nat.mul_left_comm, Nat.mul_div_cancel_left _ (Nat.two_pow_pos scale)]
    · obtain ⟨j, rfl⟩ := Nat.exists_eq_add_of_le he
      refine ⟨h / 2 ^ j, 0, Nat.lt_of_le_of_lt (Nat.div_le_self _ _) (by omega), ?_⟩
      rw [Nat.pow_add, Nat.mul_comm h, Nat.mul_div_mul_left _ _ (Nat.two_pow_pos e), Nat.pow_zero, Nat.mul_one]

/-- An integer with a nearest double is stored with the magnitude of that double, cut down to an integer. -/
theorem truncate?_ofInt {i : Int} (h : i.natAbs < doubleLimit) :
    (Binary.ofInt i : Double).truncate? =
      some (if i < 0 then -((Format.double.units (Format.double.magnitude i.natAbs 1) / 2 ^ Format.double.scale : Nat) : Int)
        else (Format.double.units (Format.double.magnitude i.natAbs 1) / 2 ^ Format.double.scale : Nat)) := by
  have hfinite : Format.double.magnitude i.natAbs 1 < Format.double.infinity := by
    have hsome := doubleOfInt_eq i
    rw [if_pos h, doubleOfInt] at hsome
    by_contra hnot
    have hinfinite : (Binary.ofInt i : Double).isInfinite = true := by
      rw [← Bool.not_eq_false]
      exact fun hcontra => hnot (Binary.isInfinite_ofMagnitude.1 hcontra)
    rw [if_pos hinfinite] at hsome
    cases hsome
  rw [Binary.ofInt, Binary.ofRatio, Binary.ofMagnitude_of_le _ (Nat.le_of_lt hfinite), Binary.truncate?, if_pos hfinite]
  simp only [decide_eq_true_eq, Nat.pow_eq]

theorem fitsDouble_throughDouble {i : Int} (h : i.natAbs < doubleLimit) : FitsDouble (throughDouble i) := by
  obtain ⟨a, j, ha, hj⟩ := units_div_eq (Format.double.magnitude i.natAbs 1)
  refine ⟨a, j, ha, ?_⟩
  rw [throughDouble, truncate?_ofInt h, Option.getD_some, ← hj]
  split
  · rw [Int.natAbs_neg, Int.natAbs_natCast]
  · rw [Int.natAbs_natCast]

/-- **An integer is kept by a double if and only if it has at most 53 significant bits.** -/
theorem throughDouble_eq_iff {i : Int} (h : i.natAbs < doubleLimit) : throughDouble i = i ↔ FitsDouble i := by
  constructor
  · intro hkept
    rw [← hkept]
    exact fitsDouble_throughDouble h
  · rintro ⟨a, j, ha, hj⟩
    have hunits : Format.double.units (Format.double.magnitude i.natAbs 1) = a * 2 ^ (j + Format.double.scale) := by
      refine Format.units_magnitude (by decide) (by decide) ha ?_
      rw [hj, Nat.mul_one, Nat.mul_assoc, ← Nat.pow_add]
    have hquotient : Format.double.units (Format.double.magnitude i.natAbs 1) / 2 ^ Format.double.scale = i.natAbs := by
      rw [hunits, Nat.pow_add, ← Nat.mul_assoc, Nat.mul_div_cancel _ (Nat.two_pow_pos _), hj]
    rw [throughDouble, truncate?_ofInt h, Option.getD_some, hquotient]
    split <;> omega

end TypedRows
