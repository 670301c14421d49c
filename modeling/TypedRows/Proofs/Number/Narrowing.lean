import Mathlib.Algebra.Order.Field.Basic
import Mathlib.Algebra.Order.Field.Rat
import TypedRows.Proofs.Number.Rounding
import TypedRows.Record.Encoding
/-!
# Doubles in four bytes

A finite double from `singleLimit` on is nearest to the infinite single (`isInfinite_round_single`). To narrow it gives
that infinity, to write it in four bytes fails (`singleBytes_eq`); any other double is narrowed to the number that its
four bytes are.
-/

namespace TypedRows

/-- The least number that is nearest to no finite single: halfway from the greatest single to the next power of two. -/
def singleLimit : Nat := (2 * 2 ^ 24 - 1) * 2 ^ 103

/-- The double is finite, but too large for a finite single. -/
def Double.exceedsSingle (x : Double) : Bool := x.toRat?.any fun q => (singleLimit : Rat) ≤ |q|

theorem isInfinite_single_ofRatio (negative : Bool) (num : Nat) {den : Nat} (hden : 0 < den) :
    (Binary.ofRatio negative num den : Single).isInfinite = false ↔ num < singleLimit * den := by
  have hinfinity : Format.single.infinity = (103 + Format.single.scale + 3) * Format.single.binade := rfl
  have hprecision : Format.single.precision = 24 := rfl
  rw [Binary.isInfinite_ofRatio (by decide) hinfinity hden, hprecision, singleLimit]

/-- The size of a finite value is a multiple of the least positive number. -/
theorem Binary.exists_toRat? {f : Format} (negative : Bool) {m : Fin (f.infinity + 1)} (h : m.val < f.infinity) :
    ∃ q, (Binary.number negative m : Binary f).toRat? = some q ∧
      |q| = (f.units m.val : Rat) / (2 ^ f.scale : Nat) := by
  have hsize : mkRat (f.units m.val) (Nat.pow 2 f.scale) = (f.units m.val : Rat) / (2 ^ f.scale : Nat) := by
    rw [Rat.mkRat_eq_div]
    rfl
  have hnonneg : (0 : Rat) ≤ (f.units m.val : Rat) / (2 ^ f.scale : Nat) :=
    div_nonneg (Nat.cast_nonneg _) (Nat.cast_nonneg _)
  refine ⟨_, by rw [toRat?, if_pos h], ?_⟩
  rw [hsize]
  cases negative with
  | true => rw [if_pos rfl, abs_neg, abs_of_nonneg hnonneg]
  | false => rw [if_neg Bool.false_ne_true, abs_of_nonneg hnonneg]

namespace Double

theorem exceedsSingle_of_lt (negative : Bool) {m : Fin (Format.double.infinity + 1)}
    (h : m.val < Format.double.infinity) :
    Double.exceedsSingle (.number negative m) = true ↔
      singleLimit * 2 ^ Format.double.scale ≤ Format.double.units m.val := by
  obtain ⟨q, hq, hsize⟩ := Binary.exists_toRat? negative h
  have hpos : (0 : Rat) < (2 ^ Format.double.scale : Nat) := Nat.cast_pos.2 (Nat.two_pow_pos _)
  rw [exceedsSingle, hq, Option.any_some, decide_eq_true_iff, hsize, le_div_iff₀ hpos]
  exact_mod_cast Iff.rfl

theorem exceedsSingle_of_isInfinite {x : Double} (h : x.isInfinite = true) : x.exceedsSingle = false := by
  cases x with
  | nan => cases h
  | number negative m =>
    simp only [Binary.isInfinite, beq_iff_eq] at h
    simp [exceedsSingle, Binary.toRat?, h]

/-- **A double becomes infinite in single precision** if it is infinite or exceeds that precision. -/
theorem isInfinite_round_single (x : Double) :
    (x.round .single).isInfinite = (x.isInfinite || x.exceedsSingle) := by
  cases x with
  | nan => rfl
  | number negative m =>
    rcases Nat.lt_or_ge m.val Format.double.infinity with hm | hm
    · have hfinite : (Binary.number negative m : Double).isInfinite = false := by
        simp only [Binary.isInfinite, beq_eq_false_iff_ne]
        omega
      have hround := isInfinite_single_ofRatio negative (Format.double.units m.val)
        (Nat.two_pow_pos Format.double.scale)
      rw [Binary.ofRatio] at hround
      rw [hfinite, Bool.false_or, Bool.eq_iff_iff, exceedsSingle_of_lt negative hm, Binary.round_of_lt negative hm,
        ← Nat.not_lt, ← hround, Bool.not_eq_false]
    · rw [Binary.eq_infinite hm, Binary.round_infinite]
      simp [Binary.infinite, Binary.ofMagnitude, Binary.isInfinite]

/-- Of a double that exceeds single precision only the sign is left. -/
theorem narrow_of_exceedsSingle {x : Double} (h : x.exceedsSingle = true) : x.narrow = .infinite x.isNegative := by
  have hround : (x.round .single).isInfinite = true := by rw [isInfinite_round_single, h, Bool.or_true]
  rw [narrow, Binary.eq_infinite_of_isInfinite hround, Binary.round_infinite, Binary.isNegative_round]

end Double

/-- **A double has four bytes** unless it exceeds single precision. -/
theorem singleBytes_eq (x : Double) :
    singleBytes x =
      if x.exceedsSingle then failOverflow .single else .ok (bigEndian 4 (x.round .single).toBits) := by
  have hcheck : ((x.round .single).isInfinite && !x.isInfinite) = x.exceedsSingle := by
    rw [Double.isInfinite_round_single]
    cases hinfinite : x.isInfinite with
    | true => simp [Double.exceedsSingle_of_isInfinite hinfinite]
    | false => simp
  rw [singleBytes, hcheck]

end TypedRows
