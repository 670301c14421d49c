import TypedRows.Error
import TypedRows.Number.Quantity
/-!
# Values of cells as numbers

`Cell.quantity?` is the exact value of a real number. In a comparison with a boxed number a plain number is
first brought to the type of the box, and an integer beside floating point becomes a double:
`quantityBeside` is the value that a number takes part with, and `complexBeside` is that value with its
imaginary part.
-/

namespace TypedRows

def boolNumber (b : Bool) : Int := if b then 1 else 0

def doubleOfInt (i : Int) : Except Error Double :=
  let x : Double := .ofInt i
  if x.isInfinite then failOverflow .integer else .ok x

/-- A double as a number of a width. -/
def FloatWidth.quantity (width : FloatWidth) (x : Double) : Quantity := .ofBinary (width.round x)

/-- An integer as a number of a width, by way of a double. -/
def FloatWidth.quantityOfInt (width : FloatWidth) (i : Int) : Except Error Quantity :=
  (doubleOfInt i).map width.quantity

/-- The value of a boxed number. -/
def Boxed.quantity? : Boxed → Option Quantity
  | .bool b => some (.exact (boolNumber b))
  | .int _ _ i => some (.exact i)
  | .float _ x => some (.ofBinary x)
  | _ => none

namespace Cell

def quantity? : Cell → Option Quantity
  | .bool b => some (.exact (boolNumber b))
  | .int i => some (.exact i)
  | .sqlType t => some (.exact t.code)
  | .float x => some (.ofBinary x)
  | .decimal d => some (.ofDecimal d)
  | .fraction q => some (.exact q)
  | .boxed b => b.quantity?
  | _ => none

/-- The real and the imaginary part of a number. -/
def complexQuantity? (cell : Cell) : Option (Quantity × Quantity) :=
  match cell with
  | .complex re im => some (.ofBinary re, .ofBinary im)
  | cell => cell.quantity?.map fun q => (q, .exact 0)

/-- The value of a real number in a comparison with another cell. -/
def quantityBeside (cell other : Cell) : Except Error (Option Quantity) :=
  match cell, other with
  | .int i, .boxed (.float width _) => (width.quantityOfInt i).map some
  | .float x, .boxed (.float width _) => .ok (some (width.quantity x))
  | .boxed (.int _ _ i), .float _ | .boxed (.int _ _ i), .complex ..
  | .boxed (.int _ _ i), .boxed (.float ..) => (FloatWidth.double.quantityOfInt i).map some
  | cell, _ => .ok cell.quantity?

/-- The real and the imaginary part of a number in a comparison with another cell. Beside a box narrower
than a double both parts become numbers of single precision. -/
def complexBeside (cell other : Cell) : Except Error (Option (Quantity × Quantity)) :=
  match cell, other with
  | .complex re im, .boxed (.float .half _) | .complex re im, .boxed (.float .single _) =>
    .ok (some (FloatWidth.single.quantity re, FloatWidth.single.quantity im))
  | .complex re im, _ => .ok (some (.ofBinary re, .ofBinary im))
  | cell, other => (cell.quantityBeside other).map fun q => q.map fun q => (q, .exact 0)

end Cell

end TypedRows
