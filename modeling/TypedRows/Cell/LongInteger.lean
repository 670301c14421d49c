import TypedRows.Error
/-!
# Cells that show a long integer

An integer of more than `maxIntegerDigits` digits cannot be written in decimal. A cell that shows one, itself
or in one of its parts, has no text and no place in a message: `Cell.toText`, `Cell.refuse` and
`RangeFault.refuse` fail on it for this reason.
-/

namespace TypedRows

/-- The integer has too many digits to be written. -/
def isLongInteger (i : Int) : Bool := Nat.pow 10 maxIntegerDigits ≤ i.natAbs

mutual

/-- The literal of the cell would show an integer with too many digits. -/
def Cell.showsLongInteger : Cell → Bool
  | .int i => isLongInteger i
  | .fraction q => isLongInteger q.num || isLongInteger q.den
  | .list items | .tuple items => anyShowsLongInteger items
  | .map entries => anyEntryShowsLongInteger entries
  | .column c => c.nullable.showsLongInteger
  | _ => false

def anyShowsLongInteger : List Cell → Bool
  | [] => false
  | cell :: rest => cell.showsLongInteger || anyShowsLongInteger rest

def anyEntryShowsLongInteger : List (Cell × Cell) → Bool
  | [] => false
  | (key, value) :: rest =>
    key.showsLongInteger || value.showsLongInteger || anyEntryShowsLongInteger rest

end

/-- The text that a cell becomes when it is bound as text. -/
def Cell.toText (cell : Cell) : Except Error String :=
  if cell.showsLongInteger then failValue .longInteger else .ok cell.plainText

/-- Refuses a cell with a failure whose message shows the cell. -/
def Cell.refuse {α : Type} (cell : Cell) (e : Error) : Except Error α :=
  if cell.showsLongInteger then failValue .longInteger else .error e

/-- Refuses a number outside a range with a message that shows the number and the range. -/
def RangeFault.refuse {α : Type} (fault : RangeFault) : Except Error α :=
  if anyShowsLongInteger [fault.value, fault.lower, fault.upper] then failValue .longInteger
  else .error (.range fault)

end TypedRows
