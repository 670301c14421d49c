import TypedRows.Number.Decimal
/-!
# Values of numbers

A `Quantity` is what numbers of different types are compared by: the exact value, or that there is none.
Decimals can be so large or so small that their value cannot be written out; such a value is kept by its
digits and its exponent and compared by the place of its first digit (`magnitudeLe`).
-/

namespace TypedRows

inductive Undefined where
  /-- Takes part in every comparison. -/
  | quiet
  /-- Can be compared for equality, but has no order. -/
  | unordered
  /-- Cannot be compared at all. -/
  | signaling
deriving DecidableEq, Repr

inductive Quantity where
  | exact (q : Rat)
  /-- The value `± digits * 10 ^ exponent`, which is not zero and beyond `remotePlace`. The digits do not
  end in a zero. -/
  | remote (negative : Bool) (size : Scientific)
  | infinite (negative : Bool)
  | undefined (kind : Undefined)
deriving DecidableEq, Repr

namespace Quantity

/-- A first digit so many places before or behind the point makes a number remote. -/
def remotePlace : Int := 20000

def ofBinary {f : Format} (x : Binary f) : Quantity :=
  match x.toRat? with
  | some q => .exact q
  | none => if x.isNaN then .undefined .quiet else .infinite x.isNegative

def ofScientific (negative : Bool) (size : Scientific) : Quantity :=
  if size.digits ≠ 0 ∧ (remotePlace < size.leading ∨ size.leading < -remotePlace) then
    .remote negative (size.trim (digitChars size.digits).length)
  else
    let value := mkRat (size.digits * Nat.pow 10 size.exponent.toNat : Nat) (Nat.pow 10 (-size.exponent).toNat)
    .exact (if size.digits = 0 then 0 else if negative then -value else value)

def ofDecimal : Decimal → Quantity
  | .infinite negative => .infinite negative
  | .undefined _ signaling _ => .undefined (if signaling then .signaling else .unordered)
  | .finite negative coefficient exponent => ofScientific negative ⟨coefficient, exponent⟩

def isUndefined : Quantity → Bool
  | .undefined _ => true
  | _ => false

/-- Equality of values, or nothing if a number cannot be compared. -/
def alike? : Quantity → Quantity → Option Bool
  | .undefined .signaling, _ | _, .undefined .signaling => none
  | .undefined _, _ => some false
  | a, b => some (a == b)

/-- Order of remote numbers without regard to signs: by the place of the first digit, then by the digits,
of which the shorter are filled up with zeros. -/
def magnitudeLe (a b : Scientific) : Bool :=
  if a.leading = b.leading then
    a.digits * Nat.pow 10 (a.exponent - b.exponent).toNat ≤
      b.digits * Nat.pow 10 (b.exponent - a.exponent).toNat
  else a.leading < b.leading

/-- An exact value lies below a remote number: below every large positive one and no large negative one,
and below a small one if it is negative, or if it is zero and the other is positive. -/
def exactBelow (q : Rat) (negative : Bool) (size : Scientific) : Bool :=
  if 0 < size.leading then !negative else q < 0 || (q == 0 && !negative)

/-- Order of values, ends included. An undefined number has none. -/
def le : Quantity → Quantity → Bool
  | .undefined _, _ | _, .undefined _ => false
  | .infinite negative, b => negative || b == .infinite false
  | _, .infinite negative => !negative
  | .exact q, .exact r => q ≤ r
  | .exact q, .remote negative size => exactBelow q negative size
  | .remote negative size, .exact q => !exactBelow q negative size
  | .remote true size, .remote true size' => magnitudeLe size' size
  | .remote true _, .remote false _ => true
  | .remote false _, .remote true _ => false
  | .remote false size, .remote false size' => magnitudeLe size size'

end Quantity

example : Quantity.le (.exact 5) (.ofDecimal (.finite false 1 999999999)) = true := by decide +kernel

example : Quantity.le (.ofDecimal (.finite false 1 (-999999999))) (.exact 0) = false := by decide +kernel

end TypedRows
