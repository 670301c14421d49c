import Mathlib.Algebra.Group.Nat.Defs
import TypedRows.Cell.LongInteger
/-!
# Integers too long to be written

Which integers a message can show (`isLongInteger_eq_false`), and what that leaves of a refusal: a number outside a
range is refused with the range unless it is itself too long for the message (`RangeFault.refuse_of_short`,
`RangeFault.refuse_of_long`).
-/

namespace TypedRows

/-- The least integer that is too long to be written. -/
def longInteger : Int := Nat.pow 10 maxIntegerDigits

theorem isLongInteger_iff {i : Int} : isLongInteger i = true ↔ Nat.pow 10 maxIntegerDigits ≤ i.natAbs :=
  decide_eq_true_iff

theorem isLongInteger_longInteger : isLongInteger longInteger = true :=
  isLongInteger_iff.2 (Nat.le_of_eq (Int.natAbs_natCast _).symm)

-- The number of digits is a variable: the power itself is not to be evaluated.
theorem pow_twenty_le {digits : Nat} (h : 20 ≤ digits) : 10 ^ 20 ≤ Nat.pow 10 digits :=
  Nat.pow_le_pow_right (by decide) h

theorem le_natAbs_longInteger : 10 ^ 20 ≤ longInteger.natAbs :=
  Nat.le_trans (pow_twenty_le (show 20 ≤ maxIntegerDigits by decide)) (isLongInteger_iff.1 isLongInteger_longInteger)

/-- An integer of at most twenty digits is not too long; the numbers of databases have fewer. -/
theorem isLongInteger_eq_false {i : Int} (h : i.natAbs < 10 ^ 20) : isLongInteger i = false := by
  rw [← Bool.not_eq_true, isLongInteger_iff, Nat.not_le]
  exact Nat.lt_of_lt_of_le h (pow_twenty_le (show 20 ≤ maxIntegerDigits by decide))

namespace RangeFault

variable {α : Type} {fault : RangeFault}

theorem refuse_of_short (hvalue : fault.value.showsLongInteger = false) (hlower : fault.lower.showsLongInteger = false)
    (hupper : fault.upper.showsLongInteger = false) : (fault.refuse : Except Error α) = .error (.range fault) := by
  simp only [refuse, anyShowsLongInteger, hvalue, hlower, hupper, Bool.or_self, Bool.false_eq_true, ↓reduceIte]

theorem refuse_of_long (hvalue : fault.value.showsLongInteger = true) :
    (fault.refuse : Except Error α) = failValue .longInteger := by
  simp only [refuse, anyShowsLongInteger, hvalue, Bool.true_or, ↓reduceIte]

end RangeFault

end TypedRows
