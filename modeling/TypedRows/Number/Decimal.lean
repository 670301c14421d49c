import TypedRows.Number.Shortest
import TypedRows.Text.Blank
import TypedRows.Text.DecimalDigit
/-!
# Decimal numbers

A `Decimal` keeps its digits and its exponent, so `1.50` and `1.5` are different decimals with the
same value. `text` writes it and `ofText?` reads it. `toDouble` gives the nearest double.
-/

namespace TypedRows

inductive Decimal where
  /-- The number `± coefficient * 10 ^ exponent`. -/
  | finite (negative : Bool) (coefficient : Nat) (exponent : Int)
  | infinite (negative : Bool)
  /-- An undefined number with the digits attached to it. A signaling one may not be used in
  arithmetic or conversion. -/
  | undefined (negative signaling : Bool) (payload : List Nat)
deriving DecidableEq, Repr, Inhabited

namespace Decimal

def signText (negative : Bool) : String := if negative then "-" else ""

def payloadText (payload : List Nat) : String := String.join (payload.map toString)

/-- Positional notation when the exponent is not positive and at most five zeros follow the point,
otherwise one digit before the point and an exponent of ten. -/
def text : Decimal → String
  | .infinite negative => signText negative ++ "Infinity"
  | .undefined negative signaling payload =>
    signText negative ++ (if signaling then "sNaN" else "NaN") ++ payloadText payload
  | .finite negative coefficient exponent =>
    let digits := digitChars coefficient
    let before : Int := exponent + digits.length
    let place : Int := if exponent ≤ 0 ∧ -6 < before then before else 1
    let mantissa :=
      if place ≤ 0 then "0." ++ String.ofList (List.replicate (-place).toNat '0' ++ digits)
      else if digits.length ≤ place.toNat then
        String.ofList (digits ++ List.replicate (place.toNat - digits.length) '0')
      else
        String.ofList (digits.take place.toNat) ++ "." ++ String.ofList (digits.drop place.toNat)
    let scale := before - place
    signText negative ++ mantissa ++
      (if scale = 0 then ""
       else "E" ++ (if scale < 0 then "-" else "+") ++ toString scale.natAbs)

/-! ## Reading -/

/-- The digits that the characters begin with, and the rest. -/
def spanDigits (cs : List Char) : List Nat × List Char :=
  (cs.takeWhile Text.isDecimalDigit |>.filterMap Text.digitValue?, cs.dropWhile Text.isDecimalDigit)

def ofDigits (digits : List Nat) : Nat := digits.foldl (fun n d => 10 * n + d) 0

def spanSign : List Char → Bool × List Char
  | '-' :: rest => (true, rest)
  | '+' :: rest => (false, rest)
  | rest => (false, rest)

/-- The value of an exponent part, which may be missing. -/
def readExponent? : List Char → Option Int
  | [] => some 0
  | 'e' :: rest =>
    let (negative, rest) := spanSign rest
    match spanDigits rest with
    | ([], _) => none
    | (digits, []) => some (if negative then -ofDigits digits else ofDigits digits)
    | _ => none
  | _ => none

/-- A decimal in positional or exponent notation, in lower case letters, without its sign. -/
def readFinite? (negative : Bool) (cs : List Char) : Option Decimal :=
  let (whole, rest) := spanDigits cs
  let (fraction, rest) := match rest with
    | '.' :: rest => spanDigits rest
    | rest => ([], rest)
  if whole.isEmpty && fraction.isEmpty then none
  else (readExponent? rest).map fun exponent =>
    .finite negative (ofDigits (whole ++ fraction)) (exponent - fraction.length)

/-- The digits after the word for an undefined number. -/
def readUndefined? (negative signaling : Bool) (cs : List Char) : Option Decimal :=
  match spanDigits cs with
  | (payload, []) => some (.undefined negative signaling (payload.dropWhile (· == 0)))
  | _ => none

/-- The decimal that a text writes: blanks around it and underscores inside it are ignored, and the
case of letters does not matter. -/
def ofText? (text : String) : Option Decimal :=
  let cs := (Text.strip text.toList).filter (· ≠ '_') |>.map Char.toLower
  let (negative, cs) := spanSign cs
  match cs with
  | ['i', 'n', 'f'] | ['i', 'n', 'f', 'i', 'n', 'i', 't', 'y'] => some (.infinite negative)
  | 'n' :: 'a' :: 'n' :: rest => readUndefined? negative false rest
  | 's' :: 'n' :: 'a' :: 'n' :: rest => readUndefined? negative true rest
  | cs => readFinite? negative cs

/-! ## Value -/

def toRat? : Decimal → Option Rat
  | .finite negative coefficient exponent =>
    let size := mkRat (coefficient * Nat.pow 10 exponent.toNat : Nat) (Nat.pow 10 (-exponent).toNat)
    some (if negative then -size else size)
  | _ => none

/-- The double nearest to `± coefficient * 10 ^ exponent`. Exponents far outside the range of a double
are settled by the position of the leading digit. -/
def scaledDouble (negative : Bool) (coefficient : Nat) (exponent : Int) : Double :=
  let leading : Int := (digitChars coefficient).length + exponent
  if coefficient = 0 ∨ leading < -400 then .ofMagnitude negative 0
  else if 400 < leading then .infinite negative
  else .ofRatio negative (coefficient * Nat.pow 10 exponent.toNat) (Nat.pow 10 (-exponent).toNat)

/-- The nearest double, or `none` for a signaling undefined number. -/
def toDouble? : Decimal → Option Double
  | .finite negative coefficient exponent => some (scaledDouble negative coefficient exponent)
  | .infinite negative => some (.infinite negative)
  | .undefined _ true _ => none
  | .undefined _ false _ => some .nan

end Decimal

end TypedRows
