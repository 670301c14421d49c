import Mathlib.Algebra.Group.Nat.Defs
import Mathlib.Tactic.Ring
import TypedRows.Cell.Number
/-!
# Rounding that changes nothing

A quotient that a format can write is rounded to itself: `magnitude_eq` finds the number of a magnitude from
its value, and `units_magnitude` finds the value of a quotient with at most `precision` significant bits. A
single precision number is such a quotient for the double format, so it survives the way there and back
(`Single.round_double_round_single`), and narrowing a double twice is narrowing it once (`Double.narrow_narrow`).
-/

namespace TypedRows

/-- A quotient is rounded up by at most one. -/
theorem halfEven_le (num den : Nat) : halfEven num den ≤ num / den + 1 := by
  unfold halfEven
  dsimp only
  split <;> omega

/-- A quotient is rounded down by less than one. -/
theorem le_halfEven (num den : Nat) : num / den ≤ halfEven num den := by
  unfold halfEven
  dsimp only
  split <;> omega

/-- A quotient is rounded to less than an even number if it lies below the middle between that number and the
one before. -/
theorem halfEven_lt_iff {num den m : Nat} (hden : 0 < den) (hm : 0 < m) (heven : m % 2 = 0) :
    halfEven num den < m ↔ 2 * num < (2 * m - 1) * den := by
  have hsplit := Nat.div_add_mod num den
  have hrest := Nat.mod_lt num hden
  unfold halfEven
  dsimp only
  generalize num / den = q at hsplit ⊢
  generalize num % den = r at hsplit hrest ⊢
  subst hsplit
  -- A quotient with the whole part `q` is compared with the middle `m - 1/2` by comparing `q` with `m`.
  have hnext : den * (q + 1) = den * q + den := by ring
  have hbelow : ∀ {k : Nat}, k < m → 2 * (den * k) + den ≤ (2 * m - 1) * den := fun {k} hk =>
    calc 2 * (den * k) + den = (2 * k + 1) * den := by ring
      _ ≤ (2 * m - 1) * den := Nat.mul_le_mul_right _ (by omega)
  have habove : ∀ {k : Nat}, m ≤ k → (2 * m - 1) * den + den ≤ 2 * (den * k) := fun {k} hk =>
    calc (2 * m - 1) * den + den = 2 * m * den := by rw [← Nat.succ_mul]; congr 1; omega
      _ ≤ 2 * k * den := Nat.mul_le_mul_right _ (by omega)
      _ = 2 * (den * k) := by ring
  split
  · rename_i hcmp
    rw [Nat.compare_eq_lt] at hcmp
    constructor
    · intro hlt
      have := hbelow hlt
      omega
    · intro hlt
      by_contra hge
      have := habove (Nat.not_lt.1 hge)
      omega
  · rename_i hcmp
    rw [Nat.compare_eq_gt] at hcmp
    constructor
    · intro hlt
      have := hbelow hlt
      omega
    · intro hlt
      by_contra hge
      have := habove (Nat.not_lt.1 hge)
      omega
  · rename_i hcmp
    rw [Nat.compare_eq_eq] at hcmp
    constructor
    · intro hlt
      have := hbelow (k := q + 1) (by omega)
      omega
    · intro hlt
      by_contra hge
      have := habove (k := q + 1) (by omega)
      omega

theorem mul_two_pow_lt {u a c n : Nat} (h : u < 2 ^ a) (hn : a + c = n) : u * 2 ^ c < 2 ^ n := by
  rw [← hn, Nat.pow_add]
  exact Nat.mul_lt_mul_of_pos_right h (Nat.two_pow_pos c)

namespace Format

variable {f : Format}

theorem binade_eq (f : Format) : f.binade = 2 ^ (f.precision - 1) := rfl

theorem magnitude_eq_halfEven (f : Format) (num den : Nat) :
    f.magnitude num den = ((num * 2 ^ f.scale / den).log2 - (f.precision - 1)) * f.binade +
      halfEven (num * 2 ^ f.scale) (den * 2 ^ ((num * 2 ^ f.scale / den).log2 - (f.precision - 1))) := rfl

theorem binade_pos : 0 < f.binade := Nat.two_pow_pos _

theorem two_pow_precision (hp : 0 < f.precision) : 2 ^ f.precision = 2 * f.binade := by
  rw [binade_eq, ← Nat.pow_succ', Nat.succ_eq_add_one, Nat.sub_add_cancel hp]

/-! ## Values of magnitudes -/

theorem units_of_lt {k : Nat} (h : k < f.binade) : f.units k = k := by
  rw [units, if_pos h]

theorem units_of_le {k : Nat} (h : f.binade ≤ k) :
    f.units k = (k % f.binade + f.binade) * 2 ^ (k / f.binade - 1) := by
  rw [units, if_neg (Nat.not_lt.2 h)]
  rfl

/-- The magnitudes of one exponent `e` are numbered from `(e + 1) * binade` on. -/
theorem units_add {h : Nat} (hlo : f.binade ≤ h) (hhi : h < 2 * f.binade) (e : Nat) :
    f.units (e * f.binade + h) = h * 2 ^ e := by
  obtain ⟨r, rfl⟩ := Nat.exists_eq_add_of_le hlo
  have hr : r < f.binade := by omega
  have hsum : e * f.binade + (f.binade + r) = r + f.binade * (e + 1) := by
    rw [Nat.mul_add, Nat.mul_one, Nat.mul_comm e]
    omega
  have hmod : (r + f.binade * (e + 1)) % f.binade = r := by
    rw [Nat.add_mul_mod_self_left, Nat.mod_eq_of_lt hr]
  have hdiv : (r + f.binade * (e + 1)) / f.binade = e + 1 := by
    rw [Nat.add_mul_div_left _ _ binade_pos, Nat.div_eq_of_lt hr, Nat.zero_add]
  have hle : f.binade ≤ r + f.binade * (e + 1) := by
    rw [Nat.mul_add]
    omega
  rw [hsum, units_of_le hle, hmod, hdiv, Nat.add_sub_cancel, Nat.add_comm r]

/-- Every magnitude lies below the binades, or is a number of full precision in one of them. -/
theorem cases_of_binade (f : Format) (k : Nat) :
    k < f.binade ∨ ∃ e h, f.binade ≤ h ∧ h < 2 * f.binade ∧ k = e * f.binade + h := by
  rcases Nat.lt_or_ge k f.binade with h | h
  · exact Or.inl h
  · have hdiv := Nat.div_add_mod k f.binade
    have hmod := Nat.mod_lt k (binade_pos (f := f))
    have hpos : 0 < k / f.binade := Nat.div_pos h binade_pos
    obtain ⟨e, he⟩ := Nat.exists_eq_add_of_lt hpos
    rw [Nat.zero_add] at he
    refine Or.inr ⟨e, f.binade + k % f.binade, by omega, by omega, ?_⟩
    rw [he, Nat.mul_add, Nat.mul_one, Nat.mul_comm] at hdiv
    omega

/-! ## Rounding a value that the format has -/

/-- The rounding of `v / 1` when `v` is a multiple of `2 ^ e`, the last place that is kept of it. -/
theorem magnitude_of_dvd {num den v h : Nat} (hden : 0 < den) (hv : num * 2 ^ f.scale = v * den)
    (hdvd : v = h * 2 ^ (v.log2 - (f.precision - 1))) :
    f.magnitude num den = (v.log2 - (f.precision - 1)) * f.binade + h := by
  have hscaled : num * 2 ^ f.scale / den = v := by rw [hv, Nat.mul_div_cancel _ hden]
  have hexact : num * 2 ^ f.scale = h * (den * 2 ^ (v.log2 - (f.precision - 1))) := by
    rw [hv, Nat.mul_comm den, ← Nat.mul_assoc, ← hdvd]
  rw [magnitude_eq_halfEven, hscaled, hexact, halfEven_mul_left (Nat.mul_pos hden (Nat.two_pow_pos _))]

theorem log2_lt_of_lt_binade {v : Nat} (h : v < f.binade) : v.log2 - (f.precision - 1) = 0 := by
  rcases Nat.eq_zero_or_pos v with rfl | hpos
  · simp
  · have := (Nat.log2_lt (by omega)).2 h
    omega

theorem log2_of_binade {h e : Nat} (hp : 0 < f.precision) (hlo : f.binade ≤ h) (hhi : h < 2 * f.binade) :
    (h * 2 ^ e).log2 - (f.precision - 1) = e := by
  have hpos := binade_pos (f := f)
  have hne : h * 2 ^ e ≠ 0 := Nat.mul_ne_zero (by omega) (Nat.ne_of_gt (Nat.two_pow_pos e))
  have hlog : (h * 2 ^ e).log2 = f.precision - 1 + e := by
    rw [Nat.log2_eq_iff hne, Nat.add_right_comm, Nat.sub_add_cancel hp, Nat.pow_add, Nat.pow_add,
      two_pow_precision hp]
    exact ⟨Nat.mul_le_mul_right _ hlo, Nat.mul_lt_mul_of_pos_right hhi (Nat.two_pow_pos e)⟩
  omega

/-- **A value of the format is rounded to its own number.** -/
theorem magnitude_eq {num den k : Nat} (hp : 0 < f.precision) (hden : 0 < den)
    (h : num * 2 ^ f.scale = f.units k * den) : f.magnitude num den = k := by
  rcases cases_of_binade f k with hk | ⟨e, m, hlo, hhi, rfl⟩
  · rw [units_of_lt hk] at h
    have hlog := log2_lt_of_lt_binade hk
    rw [magnitude_of_dvd hden h (h := k) (by rw [hlog, Nat.pow_zero, Nat.mul_one]), hlog]
    omega
  · rw [units_add hlo hhi] at h
    have hlog := log2_of_binade hp hlo hhi (e := e)
    rw [magnitude_of_dvd hden h (h := m) (by rw [hlog]), hlog]

/-- **A quotient of few significant bits keeps its value.** -/
theorem units_magnitude {num den a j : Nat} (hp : 0 < f.precision) (hden : 0 < den) (ha : a < 2 ^ f.precision)
    (h : num * 2 ^ f.scale = a * 2 ^ j * den) : f.units (f.magnitude num den) = a * 2 ^ j := by
  generalize hv : a * 2 ^ j = v at h
  rcases Nat.lt_or_ge v f.binade with hsmall | hbig
  · have hlog := log2_lt_of_lt_binade hsmall
    rw [magnitude_of_dvd hden h (h := v) (by rw [hlog, Nat.pow_zero, Nat.mul_one]), hlog, Nat.zero_mul,
      Nat.zero_add, units_of_lt hsmall]
  · have hne : v ≠ 0 := by
      have := binade_pos (f := f)
      omega
    have hle : f.precision - 1 ≤ v.log2 := (Nat.le_log2 hne).2 hbig
    have hlog : v.log2 < f.precision + j := by
      rw [Nat.log2_lt hne, ← hv]
      exact mul_two_pow_lt ha rfl
    -- The last place that is kept of `v` is at most the weight `2 ^ j` of its last bit, so nothing is cut off.
    have hexp : v.log2 - (f.precision - 1) ≤ j := by omega
    have hdvd : 2 ^ (v.log2 - (f.precision - 1)) ∣ v :=
      Nat.dvd_trans (Nat.pow_dvd_pow 2 hexp) (hv ▸ Nat.dvd_mul_left _ _)
    obtain ⟨m, hm⟩ := hdvd
    rw [Nat.mul_comm] at hm
    have hself := Nat.log2_self_le hne
    have hlt := @Nat.lt_log2_self v
    generalize he : v.log2 - (f.precision - 1) = e at hm
    have hsplit : v.log2 = (f.precision - 1) + e := by omega
    have hlo : f.binade ≤ m := by
      rw [hsplit, Nat.pow_add] at hself
      rw [hm] at hself
      exact Nat.le_of_mul_le_mul_right hself (Nat.two_pow_pos e)
    have hhi : m < 2 * f.binade := by
      rw [hsplit, Nat.add_right_comm, Nat.sub_add_cancel hp, Nat.pow_add, two_pow_precision hp] at hlt
      rw [hm] at hlt
      exact Nat.lt_of_mul_lt_mul_right hlt
    rw [magnitude_of_dvd hden h (h := m) (by rw [he]; exact hm), he, units_add hlo hhi, ← hm]

/-- **A bounded quotient has a bounded magnitude.** -/
theorem magnitude_le {num den E : Nat} (hp : 0 < f.precision)
    (h : num * 2 ^ f.scale / den < 2 ^ (f.precision + E)) :
    f.magnitude num den ≤ (E + 2) * f.binade := by
  have hb := binade_pos (f := f)
  have hround := halfEven_le (num * 2 ^ f.scale) (den * 2 ^ ((num * 2 ^ f.scale / den).log2 - (f.precision - 1)))
  rw [← Nat.div_div_eq_div_mul] at hround
  rw [magnitude_eq_halfEven]
  generalize num * 2 ^ f.scale / den = v at h hround ⊢
  have hlog : v.log2 < f.precision + E := by
    rcases Nat.eq_zero_or_pos v with rfl | hpos
    · rw [Nat.log2_zero]
      omega
    · exact (Nat.log2_lt (by omega)).2 h
  have hexp : v.log2 - (f.precision - 1) ≤ E := by omega
  have hquot : v / 2 ^ (v.log2 - (f.precision - 1)) < 2 * f.binade := by
    rw [Nat.div_lt_iff_lt_mul (Nat.two_pow_pos _), ← two_pow_precision hp, ← Nat.pow_add]
    exact Nat.lt_of_lt_of_le Nat.lt_log2_self (Nat.pow_le_pow_right (by decide) (by omega))
  have hmul := Nat.mul_le_mul_right f.binade hexp
  rw [Nat.add_mul]
  omega

/-- **The overflow bound.** A quotient is rounded to a magnitude below the first one of an exponent if it lies
below the middle between that magnitude and the one before. -/
theorem magnitude_lt_iff {num den E : Nat} (hp : 0 < f.precision) (hden : 0 < den) :
    f.magnitude num den < (E + 3) * f.binade ↔ num * 2 ^ f.scale < (2 * 2 ^ f.precision - 1) * 2 ^ E * den := by
  have hb := binade_pos (f := f)
  have hfull := two_pow_precision hp
  rcases Nat.lt_or_ge (num * 2 ^ f.scale / den) (2 ^ (f.precision + E)) with hsmall | hlarge
  · -- The exponent is at most `E`: both sides hold.
    have hle : f.magnitude num den ≤ (E + 2) * f.binade := magnitude_le hp hsmall
    have hlt : (E + 2) * f.binade < (E + 3) * f.binade := Nat.mul_lt_mul_of_pos_right (Nat.lt_succ_self _) hb
    have hmiddle : 2 ^ (f.precision + E) * den ≤ (2 * 2 ^ f.precision - 1) * 2 ^ E * den := by
      rw [Nat.pow_add]
      exact Nat.mul_le_mul_right _ (Nat.mul_le_mul_right _ (by omega))
    rw [Nat.div_lt_iff_lt_mul hden] at hsmall
    exact ⟨fun _ => by omega, fun _ => by omega⟩
  · rw [magnitude_eq_halfEven]
    generalize num * 2 ^ f.scale = v at hlarge ⊢
    have hne : v / den ≠ 0 := by
      have := Nat.two_pow_pos (f.precision + E)
      omega
    rcases Nat.lt_or_ge (v / den) (2 ^ (f.precision + E + 1)) with hlast | hbeyond
    · -- The exponent is `E + 1`: the mantissa decides.
      have hlog : (v / den).log2 - (f.precision - 1) = E + 1 := by
        have hlo := (Nat.le_log2 hne).2 hlarge
        have hhi := (Nat.log2_lt hne).2 hlast
        omega
      have hmantissa : halfEven v (den * 2 ^ (E + 1)) < 2 ^ f.precision ↔
          2 * v < (2 * 2 ^ f.precision - 1) * (den * 2 ^ (E + 1)) :=
        halfEven_lt_iff (Nat.mul_pos hden (Nat.two_pow_pos (E + 1))) (Nat.two_pow_pos f.precision) (by omega)
      have hmiddle : (2 * 2 ^ f.precision - 1) * (den * 2 ^ (E + 1)) =
          2 * ((2 * 2 ^ f.precision - 1) * 2 ^ E * den) := by
        rw [Nat.pow_succ']
        ring
      rw [hmiddle, Nat.mul_lt_mul_left (by decide), hfull] at hmantissa
      rw [hlog, hfull, ← hmantissa, Nat.add_mul, Nat.add_mul]
      omega
    · -- The exponent is greater than `E + 1`: neither side holds.
      have hlog := (Nat.le_log2 hne).2 hbeyond
      obtain ⟨e, he⟩ : ∃ e, (v / den).log2 - (f.precision - 1) = e := ⟨_, rfl⟩
      have hmantissa : f.binade ≤ v / (den * 2 ^ e) := by
        rw [← Nat.div_div_eq_div_mul, Nat.le_div_iff_mul_le (Nat.two_pow_pos e), binade_eq, ← Nat.pow_add]
        exact Nat.le_trans (Nat.pow_le_pow_right (by decide) (by omega)) (Nat.log2_self_le hne)
      have hround := le_halfEven v (den * 2 ^ e)
      have hexp : (E + 2) * f.binade ≤ e * f.binade := Nat.mul_le_mul_right _ (by omega)
      have hmiddle : (2 * 2 ^ f.precision - 1) * 2 ^ E * den ≤ 2 ^ (f.precision + E + 1) * den := by
        rw [Nat.add_right_comm, Nat.pow_add, Nat.pow_succ']
        exact Nat.mul_le_mul_right _ (Nat.mul_le_mul_right _ (by omega))
      have hproduct := (Nat.le_div_iff_mul_le hden).1 hbeyond
      rw [he]
      rw [Nat.add_mul] at hexp ⊢
      exact ⟨fun h => by omega, fun h => by omega⟩

end Format

/-! ## Formats within formats -/

namespace Binary

theorem ofMagnitude_of_le {f : Format} (negative : Bool) {m : Nat} (h : m ≤ f.infinity) :
    ofMagnitude negative m = (.number negative ⟨m, by omega⟩ : Binary f) := by
  simp only [ofMagnitude, Nat.min_eq_left h]

theorem round_of_lt {f g : Format} (negative : Bool) {m : Fin (f.infinity + 1)} (h : m.val < f.infinity) :
    (Binary.number negative m).round g = ofMagnitude negative (g.magnitude (f.units m.val) (2 ^ f.scale)) := by
  rw [round, if_pos h]
  rfl

theorem eq_infinite {f : Format} {negative : Bool} {m : Fin (f.infinity + 1)} (h : f.infinity ≤ m.val) :
    (Binary.number negative m : Binary f) = infinite negative := by
  have hval : m = ⟨f.infinity, Nat.lt_succ_self _⟩ := Fin.ext (Nat.le_antisymm (Nat.le_of_lt_succ m.isLt) h)
  rw [infinite, ofMagnitude_of_le negative (Nat.le_refl _), hval]

theorem eq_infinite_of_isInfinite {f : Format} {x : Binary f} (h : x.isInfinite = true) :
    x = infinite x.isNegative := by
  cases x with
  | nan => cases h
  | number negative m => exact eq_infinite (Nat.le_of_eq (beq_iff_eq.1 h).symm)

theorem isNegative_round {f g : Format} (x : Binary f) : (x.round g).isNegative = x.isNegative := by
  cases x with
  | nan => rfl
  | number negative m =>
    rw [round]
    split <;> rfl

theorem round_infinite {f g : Format} (negative : Bool) :
    (infinite negative : Binary f).round g = infinite negative := by
  simp [infinite, ofMagnitude, round]

end Binary

namespace Single

open Format

/-- The least double divides the least single precision number into `2 ^ refinement` parts. -/
def refinement : Nat := 925

theorem scale_double : double.scale = refinement + single.scale := rfl

/-- The single magnitudes in multiples of the least one are small numbers of few significant bits. -/
theorem units_eq (m : Nat) (h : m < single.infinity) :
    ∃ a j, a < 2 ^ double.precision ∧ single.units m = a * 2 ^ j ∧
      single.units m < 2 ^ (single.precision + 254) := by
  rcases cases_of_binade single m with hm | ⟨e, a, hlo, hhi, rfl⟩
  · have hm' : m < 2 ^ 23 := hm
    refine ⟨m, 0, ?_, ?_, ?_⟩
    · exact Nat.lt_of_lt_of_le hm' (Nat.pow_le_pow_right (by decide) (by decide))
    · rw [units_of_lt hm, Nat.pow_zero, Nat.mul_one]
    · rw [units_of_lt hm]
      exact Nat.lt_of_lt_of_le hm' (Nat.pow_le_pow_right (by decide) (by decide))
  · have hhi' : a < 2 ^ single.precision := hhi
    have he : e ≤ 254 := by
      have hb : single.binade = 8388608 := rfl
      have hi : single.infinity = 255 * 8388608 := rfl
      rw [hb] at h hlo
      rw [hi] at h
      omega
    refine ⟨a, e, ?_, units_add hlo hhi e, ?_⟩
    · exact Nat.lt_of_lt_of_le hhi' (Nat.pow_le_pow_right (by decide) (by decide))
    · rw [units_add hlo hhi]
      exact Nat.lt_of_lt_of_le (mul_two_pow_lt hhi' rfl) (Nat.pow_le_pow_right (by decide) (by omega))

/-- The double format has every finite single magnitude, below its infinite one. -/
theorem magnitude_double (m : Nat) (h : m < single.infinity) :
    double.magnitude (single.units m) (2 ^ single.scale) < double.infinity ∧
      double.units (double.magnitude (single.units m) (2 ^ single.scale)) = single.units m * 2 ^ refinement := by
  obtain ⟨a, j, ha, haj, hsmall⟩ := units_eq m h
  have hv : single.units m * 2 ^ double.scale = single.units m * 2 ^ refinement * 2 ^ single.scale := by
    rw [scale_double, Nat.pow_add, Nat.mul_assoc]
  have hp : 0 < double.precision := by decide
  constructor
  · have hle : double.magnitude (single.units m) (2 ^ single.scale) ≤ (1150 + 2) * double.binade := by
      refine magnitude_le hp ?_
      rw [hv, Nat.mul_div_cancel _ (Nat.two_pow_pos _)]
      exact mul_two_pow_lt hsmall rfl
    refine Nat.lt_of_le_of_lt hle ?_
    show (1150 + 2) * double.binade < 2047 * double.binade
    exact Nat.mul_lt_mul_of_pos_right (by decide) binade_pos
  · have hexact := units_magnitude hp (Nat.two_pow_pos single.scale) ha (j := j + refinement) (by
      rw [hv, haj, Nat.pow_add, Nat.mul_assoc a])
    rw [hexact, haj, Nat.pow_add, Nat.mul_assoc]

/-- **A single precision number survives the way to a double and back.** -/
theorem round_double_round_single (x : Single) : (x.round .double).round .single = x := by
  cases x with
  | nan => rfl
  | number negative m =>
    rcases Nat.lt_or_ge m.val single.infinity with hm | hm
    · obtain ⟨hfinite, hvalue⟩ := magnitude_double m.val hm
      rw [Binary.round_of_lt negative hm, Binary.ofMagnitude_of_le negative (Nat.le_of_lt hfinite),
        Binary.round_of_lt negative hfinite]
      have hback : single.magnitude (double.units (double.magnitude (single.units m.val) (2 ^ single.scale)))
          (2 ^ double.scale) = m.val := by
        refine magnitude_eq (by decide) (Nat.two_pow_pos _) ?_
        rw [hvalue, scale_double, Nat.pow_add, Nat.mul_assoc]
      rw [hback, Binary.ofMagnitude_of_le negative (Nat.le_of_lt hm)]
    · rw [Binary.eq_infinite hm, Binary.round_infinite, Binary.round_infinite]

end Single

/-- **Narrowing twice is narrowing once.** -/
theorem Double.narrow_narrow (x : Double) : x.narrow.narrow = x.narrow := by
  rw [Double.narrow, Double.narrow, Single.round_double_round_single]

/-! ## Integers -/

theorem Binary.isInfinite_ofMagnitude {f : Format} {negative : Bool} {m : Nat} :
    (ofMagnitude negative m : Binary f).isInfinite = false ↔ m < f.infinity := by
  simp only [isInfinite, ofMagnitude, beq_eq_false_iff_ne]
  omega

theorem two_pow_mul_two_pow {a b n : Nat} (h : a + b = n) : 2 ^ a * 2 ^ b = 2 ^ n := by
  rw [← Nat.pow_add, h]

/-- A quotient is rounded to a finite value if it lies below the middle between the greatest finite value and the
power of two behind it. -/
theorem Binary.isInfinite_ofRatio {f : Format} {negative : Bool} {num den e : Nat} (hp : 0 < f.precision)
    (hinfinity : f.infinity = (e + f.scale + 3) * f.binade) (hden : 0 < den) :
    (ofRatio negative num den : Binary f).isInfinite = false ↔ num < (2 * 2 ^ f.precision - 1) * 2 ^ e * den := by
  have hscaled : (2 * 2 ^ f.precision - 1) * 2 ^ (e + f.scale) * den =
      (2 * 2 ^ f.precision - 1) * 2 ^ e * den * 2 ^ f.scale := by
    rw [Nat.pow_add]
    ring
  rw [ofRatio, isInfinite_ofMagnitude, hinfinity, Format.magnitude_lt_iff hp hden, hscaled,
    Nat.mul_lt_mul_right (Nat.two_pow_pos _)]

/-- The least integer that is nearest to no double: halfway from the greatest double to the next power of two. -/
def doubleLimit : Nat := (2 * 2 ^ 53 - 1) * 2 ^ 970

/-- A quotient is rounded to a finite double if it lies below the limit. -/
theorem isInfinite_ofRatio {negative : Bool} {num den : Nat} (hden : 0 < den) :
    (Binary.ofRatio negative num den : Double).isInfinite = false ↔ num < doubleLimit * den := by
  have hinfinity : Format.double.infinity = (970 + Format.double.scale + 3) * Format.double.binade := rfl
  have hprecision : Format.double.precision = 53 := rfl
  rw [Binary.isInfinite_ofRatio (by decide) hinfinity hden, hprecision, doubleLimit]

/-- **An integer has a nearest double** if it lies below the limit. -/
theorem doubleOfInt_eq (i : Int) :
    doubleOfInt i = if i.natAbs < doubleLimit then .ok (Binary.ofInt i) else failOverflow .integer := by
  have hfinite : (Binary.ofInt i : Double).isInfinite = false ↔ i.natAbs < doubleLimit := by
    rw [Binary.ofInt, isInfinite_ofRatio (by decide), Nat.mul_one]
  rw [doubleOfInt]
  by_cases h : i.natAbs < doubleLimit
  · rw [if_pos h, if_neg (by simp [hfinite.2 h])]
  · rw [if_neg h, if_pos (Bool.not_eq_false _ ▸ fun hcontra => h (hfinite.1 hcontra))]

theorem two_pow_le_doubleLimit : 2 ^ 1023 ≤ doubleLimit := by
  rw [doubleLimit, ← two_pow_mul_two_pow (a := 53) (b := 970) (n := 1023) rfl]
  exact Nat.mul_le_mul_right _ (by decide)

/-- An integer of at most 1023 bits has a nearest double. -/
theorem exists_doubleOfInt {i : Int} (h : i.natAbs < 2 ^ 1023) : ∃ x, doubleOfInt i = .ok x :=
  ⟨_, by rw [doubleOfInt_eq, if_pos (Nat.lt_of_lt_of_le h two_pow_le_doubleLimit)]⟩

end TypedRows
