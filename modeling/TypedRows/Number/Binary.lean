import TypedRows.Number.Rounding
/-!
# Binary floating point

A format fixes how many bits a number keeps (`precision`), the least positive number `2 ^ -scale`,
where the infinite magnitude lies and from where on numbers are written with an exponent. The magnitudes
of a format are numbered in ascending order: magnitude number `0` is zero, `infinity` is the infinite one,
and `units` gives the value of each in multiples of the least positive number. `magnitude` is the other
direction: the number of the magnitude nearest to a quotient, ties to the even number.

A `Binary` value is a signed magnitude or the undefined number. There is one undefined number, so a
value is determined by what it means, apart from the sign of zero.
-/

namespace TypedRows

/-- A binary floating point format. -/
structure Format where
  /-- Significant bits of a normal number. -/
  precision : Nat
  /-- The least positive number is `2 ^ -scale`. -/
  scale : Nat
  /-- The number of finite magnitudes, which is the number of the infinite one. -/
  infinity : Nat
  /-- Numbers from `10 ^ plainDigits` on are written with an exponent. -/
  plainDigits : Nat
deriving DecidableEq, Repr

namespace Format

def half : Format := ⟨11, 24, 31 * Nat.pow 2 10, 3⟩

def single : Format := ⟨24, 149, 255 * Nat.pow 2 23, 6⟩

def double : Format := ⟨53, 1074, 2047 * Nat.pow 2 52, 16⟩

/-- The numbers that share one exponent. -/
def binade (f : Format) : Nat := Nat.pow 2 (f.precision - 1)

/-- The value of a magnitude, in multiples of the least positive number. -/
def units (f : Format) (magnitude : Nat) : Nat :=
  if magnitude < f.binade then magnitude
  else (magnitude % f.binade + f.binade) * Nat.pow 2 (magnitude / f.binade - 1)

/-- The number of the magnitude nearest to `num / den`, were there no largest finite one. -/
def magnitude (f : Format) (num den : Nat) : Nat :=
  let scaled := num * Nat.pow 2 f.scale
  let exponent := (scaled / den).log2 - (f.precision - 1)
  exponent * f.binade + halfEven scaled (den * Nat.pow 2 exponent)

end Format

inductive Binary (f : Format) where
  /-- The undefined number. -/
  | nan
  /-- A magnitude with a sign. -/
  | number (negative : Bool) (magnitude : Fin (f.infinity + 1))
deriving DecidableEq, Repr

abbrev Double := Binary .double

abbrev Single := Binary .single

namespace Binary

variable {f : Format}

/-- The signed magnitude, infinite from `infinity` on. -/
def ofMagnitude (negative : Bool) (magnitude : Nat) : Binary f :=
  .number negative ⟨min magnitude f.infinity, by omega⟩

def ofRatio (negative : Bool) (num den : Nat) : Binary f :=
  ofMagnitude negative (f.magnitude num den)

def zero : Binary f := ofMagnitude false 0

def infinite (negative : Bool) : Binary f := ofMagnitude negative f.infinity

instance : Inhabited (Binary f) := ⟨.nan⟩

def ofInt (i : Int) : Binary f := ofRatio (i < 0) i.natAbs 1

def ofRat (q : Rat) : Binary f := ofRatio (q < 0) q.num.natAbs q.den

def isInfinite : Binary f → Bool
  | .nan => false
  | .number _ magnitude => magnitude.val == f.infinity

/-- The undefined number. -/
def isNaN : Binary f → Bool
  | .nan => true
  | .number .. => false

def isZero : Binary f → Bool
  | .nan => false
  | .number _ magnitude => magnitude.val == 0

/-- The sign of the value; the undefined number has none. -/
def isNegative : Binary f → Bool
  | .nan => false
  | .number negative _ => negative

/-- The exact value of a finite number. -/
def toRat? : Binary f → Option Rat
  | .nan => none
  | .number negative magnitude =>
    if magnitude.val < f.infinity then
      let size := mkRat (f.units magnitude.val) (Nat.pow 2 f.scale)
      some (if negative then -size else size)
    else none

/-- The value of another format nearest to this one. -/
def round (g : Format) : Binary f → Binary g
  | .nan => .nan
  | .number negative magnitude =>
    if magnitude.val < f.infinity then ofRatio negative (f.units magnitude.val) (Nat.pow 2 f.scale)
    else infinite negative

/-- The integer between zero and the value that is nearest to the value, or `none`. -/
def truncate? : Binary f → Option Int
  | .nan => none
  | .number negative magnitude =>
    if magnitude.val < f.infinity then
      let size : Int := (f.units magnitude.val / Nat.pow 2 f.scale : Nat)
      some (if negative then -size else size)
    else none

/-- The weight of the sign in the bit pattern of a value. -/
def signBit (f : Format) : Nat := f.infinity + f.binade

def toBits : Binary f → Nat
  | .nan => f.infinity + f.binade / 2
  | .number negative magnitude => (if negative then signBit f else 0) + magnitude.val

def ofBits (bits : Nat) : Binary f :=
  let magnitude := bits % signBit f
  if magnitude ≤ f.infinity then ofMagnitude (signBit f ≤ bits) magnitude else .nan

/-- Equality of numbers: both zeros are equal, and the undefined number equals nothing. -/
def alike : Binary f → Binary f → Bool
  | .number negative magnitude, .number negative' magnitude' =>
    magnitude == magnitude' && (negative == negative' || magnitude.val == 0)
  | _, _ => false

end Binary

/-- The nearest four byte value, as an eight byte value. -/
def Double.narrow (x : Double) : Double := (x.round .single).round .double

end TypedRows
