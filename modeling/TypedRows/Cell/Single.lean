import TypedRows.Cell.Conversion
import TypedRows.Cell.Layout
/-!
# Single precision numbers

`Cell.toSingle` gives the single precision number nearest to a cell. A boxed number is rounded once, any
other number by way of a double.

A sequence is first laid out as an array, whose lengths must agree. Then an item that is no number is
refused, and in the end the array itself, because it is not one number.
-/

namespace TypedRows

/-! ## Single numbers -/

/-- The double with the value of the single precision number nearest to an integer. -/
def singleOfInt (i : Int) : Double := (Binary.ofInt i : Single).round .double

/-- The double that a stored text without its padding writes. -/
def readStored (b : Boxed) (text : String) : Except Error Double := readDouble b.literal text

/-- The single precision number nearest to a boxed scalar. Instants are taken by their count. -/
def Boxed.toSingle (b : Boxed) : Except Error Double :=
  match b with
  | .bool value => .ok (singleOfInt (boolNumber value))
  | .int _ _ i => .ok (singleOfInt i)
  | .float _ x => .ok x.narrow
  | .text s => (readStored b (unpaddedText s)).map Double.narrow
  | .bytes data => (readStored b (asciiText (unpaddedBytes data))).map Double.narrow
  | .instant _ count => .ok (singleOfInt (count.getD noInstantCount))

/-- The single precision number nearest to a cell that is no sequence. A null becomes the undefined
number. -/
def Cell.itemToSingle (cell : Cell) : Except Error Double :=
  match cell with
  | .null => .ok .nan
  | .boxed b => b.toSingle
  | .keyed .. => failValue .sequenceItem
  | cell => cell.toDouble.map Double.narrow

/-! ## Arrays -/

mutual

/-- Refuses a cell with an item that is no number, the first such item. -/
def Cell.checkNumbers : Cell → Except Error Unit
  | .list items | .tuple items => checkAllNumbers items
  | .bytes .growable _ | .bytes .view _ => .ok ()
  | cell => cell.itemToSingle.map fun _ => ()

def checkAllNumbers : List Cell → Except Error Unit
  | [] => .ok ()
  | cell :: rest => do
    cell.checkNumbers
    checkAllNumbers rest

end

namespace Cell

/-- The refusal of a sequence in the place of a number. -/
def refuseArray (cell : Cell) : Except Error Double := do
  (cell.layOut {} 0).check
  cell.checkNumbers
  failType .notOneNumber

/-- The single precision number nearest to a cell, as a double. -/
def toSingle (cell : Cell) : Except Error Double :=
  match cell with
  | .list _ | .tuple _ | .bytes .growable _ | .bytes .view _ => cell.refuseArray
  | cell => cell.itemToSingle

end Cell

end TypedRows
