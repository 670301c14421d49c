/-!
# Numbers in bytes

A number in a fixed count of bytes: `bigEndian` with the highest byte first, `littleEndian` with the lowest
byte first. Negative integers are in two's complement.
-/

namespace TypedRows

/-- A number in a fixed count of bytes, the highest byte first; what does not fit is cut off. -/
def bigEndian : Nat → Nat → List UInt8
  | 0, _ => []
  | width + 1, n => UInt8.ofNat (n / Nat.pow 256 width) :: bigEndian width n

def littleEndian (width n : Nat) : List UInt8 := (bigEndian width n).reverse

/-- The natural number that has the same bytes as an integer in two's complement. -/
def unsignedOf (width : Nat) (i : Int) : Nat := (i % (Nat.pow 256 width : Nat)).toNat

/-- An integer in a fixed count of bytes in two's complement. -/
def bigEndianInt (width : Nat) (i : Int) : List UInt8 := bigEndian width (unsignedOf width i)

example : littleEndian 2 (unsignedOf 2 (-2)) = [254, 255] := by decide

end TypedRows
