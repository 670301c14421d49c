/-!
# Rounding a quotient

`halfEven` rounds a quotient of naturals to the nearest natural; a quotient halfway between two
goes to the even one. It is the only rounding rule of the library.
-/

namespace TypedRows

/-- The natural nearest to `num / den`, the even one of two equally near. -/
def halfEven (num den : Nat) : Nat :=
  let quotient := num / den
  match compare (2 * (num % den)) den with
  | .lt => quotient
  | .gt => quotient + 1
  | .eq => quotient + quotient % 2

/-- An exact quotient is not changed. -/
theorem halfEven_mul_left {den : Nat} (positive : 0 < den) (n : Nat) :
    halfEven (n * den) den = n := by
  have smaller : compare (2 * (n * den % den)) den = .lt := by
    rw [Nat.mul_mod_left, Nat.compare_eq_lt]; omega
  simp only [halfEven, smaller]
  exact Nat.mul_div_cancel n positive

example : (halfEven 5 2, halfEven 7 2, halfEven 9 4) = (2, 4, 2) := by decide

end TypedRows
