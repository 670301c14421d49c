import TypedRows.Number.Binary
/-!
# The shortest decimal of a binary number

`shortest` gives the decimal with the fewest digits that rounds to a given magnitude, and of several
with that many digits the one nearest to it. The search tries one, two, … digits; with a given number
of digits only the two neighbours of the magnitude on that decimal grid can be nearest.
-/

namespace TypedRows

/-- The decimal `digits * 10 ^ exponent`. -/
structure Scientific where
  digits : Nat
  exponent : Int
deriving DecidableEq, Repr

namespace Scientific

def ratio (d : Scientific) : Nat × Nat :=
  (d.digits * Nat.pow 10 d.exponent.toNat, Nat.pow 10 (-d.exponent).toNat)

/-- The exponent of the leading digit. -/
def leading (d : Scientific) : Int := d.exponent + (Nat.toDigits 10 d.digits).length - 1

/-- The same decimal without zeros at the end of its digits, of which it drops at most `fuel`. -/
def trim : Nat → Scientific → Scientific
  | 0, d => d
  | fuel + 1, d =>
    if d.digits ≠ 0 ∧ d.digits % 10 = 0 then trim fuel ⟨d.digits / 10, d.exponent + 1⟩ else d

end Scientific

namespace Format

/-- The decimal rounds to the magnitude. -/
def readsBack (f : Format) (magnitude : Nat) (d : Scientific) : Bool :=
  f.magnitude d.ratio.1 d.ratio.2 == magnitude

/-- Decimal places that bring every positive number of the formats above one. -/
def decimalShift : Nat := 400

/-- The least exponent of ten that lies above a positive magnitude. -/
def decimalExponent (f : Format) (magnitude : Nat) : Int :=
  let shifted := f.units magnitude * Nat.pow 10 decimalShift / Nat.pow 2 f.scale
  (Nat.toDigits 10 shifted).length - decimalShift

/-- The decimal with `count` digits that is nearest to the magnitude among those that round to it. -/
def nearestWith? (f : Format) (magnitude count : Nat) : Option Scientific :=
  let exponent := f.decimalExponent magnitude - count
  let num := f.units magnitude * Nat.pow 10 (-exponent).toNat
  let den := Nat.pow 2 f.scale * Nat.pow 10 exponent.toNat
  let below : Scientific := ⟨num / den, exponent⟩
  let above : Scientific := ⟨num / den + 1, exponent⟩
  let nearest : Scientific := ⟨halfEven num den, exponent⟩
  match f.readsBack magnitude below, f.readsBack magnitude above with
  | true, true => some nearest
  | true, false => some below
  | false, true => some above
  | false, false => none

/-- The shortest decimal that rounds to a positive finite magnitude. -/
def shortest (f : Format) (magnitude : Nat) : Scientific :=
  match (List.range 17).findSome? fun i => f.nearestWith? magnitude (i + 1) with
  | some d => d.trim 20
  | none => ⟨f.units magnitude * Nat.pow 5 f.scale, -f.scale⟩

end Format

/-! ## Layout -/

def digitChars (n : Nat) : List Char := Nat.toDigits 10 n

/-- A whole number written with at least `width` digits. -/
def padded (width n : Nat) : String :=
  String.ofList (List.replicate (width - (digitChars n).length) '0' ++ digitChars n)

/-- A magnitude from `10 ^ -4` up to `10 ^ plainDigits` is written without an exponent. -/
def Format.writesPlain (f : Format) (magnitude : Nat) : Bool :=
  Nat.pow 2 f.scale ≤ f.units magnitude * Nat.pow 10 4 &&
    f.units magnitude < Nat.pow 10 f.plainDigits * Nat.pow 2 f.scale

/-- A decimal in positional notation. Whole numbers end in `whole`. -/
def Scientific.positional (whole : String) (d : Scientific) : String :=
  let digits := digitChars d.digits
  if d.leading < 0 then
    "0." ++ String.ofList (List.replicate (-d.leading - 1).toNat '0' ++ digits)
  else
    let places := d.leading.toNat + 1
    let front := digits.take places ++ List.replicate (places - digits.length) '0'
    String.ofList front ++
      (if digits.length ≤ places then whole else "." ++ String.ofList (digits.drop places))

/-- A decimal with one digit before the point and a signed exponent of at least two digits. -/
def Scientific.exponential (d : Scientific) : String :=
  let digits := digitChars d.digits
  let point := if digits.length ≤ 1 then "" else "." ++ String.ofList (digits.drop 1)
  String.ofList (digits.take 1) ++ point ++ "e" ++ (if d.leading < 0 then "-" else "+") ++
    padded 2 d.leading.natAbs

namespace Binary

variable {f : Format}

/-- A positive finite magnitude as text, with `whole` after a whole number in positional notation. -/
def magnitudeText (f : Format) (whole : String) (magnitude : Nat) : String :=
  if f.writesPlain magnitude then (f.shortest magnitude).positional whole
  else (f.shortest magnitude).exponential

/-- A number as text, with `whole` after a whole number. -/
def layout (whole : String) : Binary f → String
  | .nan => "nan"
  | .number negative magnitude =>
    (if negative then "-" else "") ++
      (if magnitude.val = 0 then "0" ++ whole
       else if magnitude.val < f.infinity then magnitudeText f whole magnitude.val
       else "inf")

def text (x : Binary f) : String := x.layout ".0"

end Binary

/-- The text of a complex number. A real part of positive zero is left out. -/
def complexText (re im : Double) : String :=
  let signed := match im with
    | .number true _ => im.layout ""
    | _ => "+" ++ im.layout ""
  if re = .zero then im.layout "" ++ "j" else "(" ++ re.layout "" ++ signed ++ "j)"

end TypedRows
