import Mathlib.Algebra.Group.Nat.Defs
import Mathlib.Tactic.Ring
import TypedRows.Number.Binary
import TypedRows.Number.ByteOrder
/-!
# Numbers read from bytes

`ofBigEndian` reads what `bigEndian` writes, up to what was cut off, and `ofBigEndianInt` does so for integers in
two's complement. A floating point value is found again by its bit pattern (`Binary.ofBits_toBits`).
-/

namespace TypedRows

/-! ## Natural numbers -/

/-- The number that bytes write, the highest byte first. -/
def ofBigEndian : List UInt8 → Nat
  | [] => 0
  | byte :: rest => byte.toNat * 256 ^ rest.length + ofBigEndian rest

@[simp]
theorem length_bigEndian (width n : Nat) : (bigEndian width n).length = width := by
  induction width with
  | zero => rfl
  | succ width ih => simp [bigEndian, ih]

/-- **A number is read back** as far as its bytes reach. -/
theorem ofBigEndian_bigEndian (width n : Nat) : ofBigEndian (bigEndian width n) = n % 256 ^ width := by
  induction width with
  | zero => simp [bigEndian, ofBigEndian, Nat.mod_one]
  | succ width ih =>
    have hbyte : (UInt8.ofNat (n / 256 ^ width)).toNat = n / 256 ^ width % 256 := UInt8.toNat_ofNat'
    show (UInt8.ofNat (n / 256 ^ width)).toNat * 256 ^ (bigEndian width n).length +
      ofBigEndian (bigEndian width n) = _
    rw [hbyte, length_bigEndian, ih, Nat.pow_succ, Nat.mod_mul]
    ring

theorem ofBigEndian_bigEndian_of_lt {width n : Nat} (h : n < 256 ^ width) :
    ofBigEndian (bigEndian width n) = n := by
  rw [ofBigEndian_bigEndian, Nat.mod_eq_of_lt h]

/-! ## Integers -/

def ofBigEndianInt (data : List UInt8) : Int :=
  if 2 * ofBigEndian data < 256 ^ data.length then ofBigEndian data
  else ofBigEndian data - (256 ^ data.length : Nat)

theorem unsignedOf_eq (width : Nat) (i : Int) : unsignedOf width i = (i % (256 ^ width : Nat)).toNat := rfl

/-- **An integer is read back** if its absolute value has a bit less than its bytes. -/
theorem ofBigEndianInt_bigEndianInt {width : Nat} {i : Int} (hlower : -(256 ^ width : Nat) ≤ 2 * i)
    (hupper : 2 * i < (256 ^ width : Nat)) : ofBigEndianInt (bigEndianInt width i) = i := by
  have hread : ofBigEndian (bigEndianInt width i) = unsignedOf width i % 256 ^ width :=
    ofBigEndian_bigEndian width _
  have hwidth : (bigEndianInt width i).length = width := length_bigEndian width _
  have hpos : 0 < 256 ^ width := Nat.pow_pos (by decide)
  rw [ofBigEndianInt, hread, hwidth, unsignedOf_eq]
  generalize 256 ^ width = m at *
  -- A negative integer is written as itself and one turn more.
  rcases Int.lt_or_le i 0 with hneg | hnonneg
  · have hturn : i % (m : Int) = i + m := by
      rw [← Int.add_emod_right, Int.emod_eq_of_lt] <;> omega
    have hmod : (i + m).toNat % m = (i + m).toNat := Nat.mod_eq_of_lt (by omega)
    rw [hturn, hmod]
    split <;> omega
  · have hself : i % (m : Int) = i := Int.emod_eq_of_lt hnonneg (by omega)
    have hmod : i.toNat % m = i.toNat := Nat.mod_eq_of_lt (by omega)
    rw [hself, hmod]
    split <;> omega

/-! ## Bit patterns -/

namespace Binary

variable {f : Format}

theorem toBits_number (negative : Bool) (magnitude : Fin (f.infinity + 1)) :
    (number negative magnitude).toBits = (if negative then signBit f else 0) + magnitude.val := rfl

/-- Below the sign there is room for the magnitudes and the undefined number. -/
theorem signBit_eq (f : Format) : signBit f = f.infinity + f.binade := rfl

/-- A bit pattern has one bit for the sign and the others below it. -/
theorem toBits_lt (hbinade : 2 ≤ f.binade) (x : Binary f) : x.toBits < 2 * signBit f := by
  rw [signBit_eq]
  cases x with
  | nan =>
    show f.infinity + f.binade / 2 < _
    omega
  | number negative magnitude =>
    have hlt := magnitude.isLt
    rw [toBits_number, signBit_eq]
    split <;> omega

theorem ofMagnitude_val (negative : Bool) (magnitude : Fin (f.infinity + 1)) :
    ofMagnitude negative magnitude.val = number negative magnitude := by
  have hlt := magnitude.isLt
  rw [ofMagnitude]
  congr 1
  exact Fin.ext (Nat.min_eq_left (by omega))

/-- **A value is found again by its bit pattern.** -/
theorem ofBits_toBits (hbinade : 2 ≤ f.binade) (x : Binary f) : (ofBits x.toBits : Binary f) = x := by
  have hsign := signBit_eq f
  cases x with
  | nan =>
    have hmod : (f.infinity + f.binade / 2) % signBit f = f.infinity + f.binade / 2 :=
      Nat.mod_eq_of_lt (by omega)
    show ofBits (f.infinity + f.binade / 2) = _
    rw [ofBits, hmod, if_neg (by omega)]
  | number negative magnitude =>
    have hlt := magnitude.isLt
    have hmod : (number negative magnitude).toBits % signBit f = magnitude.val := by
      rw [toBits_number]
      cases negative with
      | false => simp only [Bool.false_eq_true, ↓reduceIte, Nat.zero_add]; exact Nat.mod_eq_of_lt (by omega)
      | true => simp only [↓reduceIte, Nat.add_mod_left]; exact Nat.mod_eq_of_lt (by omega)
    have hnegative : decide (signBit f ≤ (number negative magnitude).toBits) = negative := by
      rw [toBits_number]
      cases negative with
      | false => simp only [Bool.false_eq_true, ↓reduceIte, decide_eq_false_iff_not]; omega
      | true => simp
    rw [ofBits, hmod, if_pos (by omega), hnegative, ofMagnitude_val]

end Binary

end TypedRows
