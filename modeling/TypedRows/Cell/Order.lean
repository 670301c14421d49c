import TypedRows.Cell.Conversion
/-!
# Order of cells

`Cell.le` compares numbers of any types by value, texts by code points, buffers byte by byte, and dates and
times in time. Other cells have no order. A boxed number is compared in its own type: a plain number is
first brought to the width of the box.
-/

namespace TypedRows

/-- Buffers in the order of their bytes. -/
def bytesLe : Bytes → Bytes → Bool
  | [], _ => true
  | _ :: _, [] => false
  | a :: rest, b :: rest' => if a = b then bytesLe rest rest' else a < b

namespace Cell

def isDecimal : Cell → Bool
  | .decimal _ => true
  | _ => false

/-- Order of the values of two numbers. A comparison with a decimal is refused if one of the numbers is
undefined. -/
def quantityLe (a b : Cell) (x y : Quantity) : Except Error Bool :=
  if (a.isDecimal || b.isDecimal) && (x.isUndefined || y.isUndefined) then .error .undefinedComparison
  else .ok (x.le y)

/-- Order of cells that are not both numbers. -/
def otherLe (a b : Cell) : Except Error Bool :=
  match a.relaxed, b.relaxed with
  | .text s, .text s' => .ok (s ≤ s')
  | .bytes .view _, .bytes .. | .bytes .., .bytes .view _ =>
    failType (.notOrdered a.fullTypeName b.fullTypeName)
  | .bytes _ data, .bytes _ data' => .ok (bytesLe data data')
  | .date d, .date d' => .ok (d.dayNumber ≤ d'.dayNumber)
  | .time t none, .time t' none => .ok (t.micros ≤ t'.micros)
  | .datetime d none, .datetime d' none => .ok (d.micros ≤ d'.micros)
  | .int _, .boxed (.instant ..) | .boxed (.instant ..), .int _ => .error .instantOrder
  | _, _ => failType (.notOrdered a.fullTypeName b.fullTypeName)

/-- The first cell comes before the second or is equal to it. -/
def le (a b : Cell) : Except Error Bool := do
  match ← a.quantityBeside b, ← b.quantityBeside a with
  | some x, some y => a.quantityLe b x y
  | _, _ => a.otherLe b

end Cell

end TypedRows
