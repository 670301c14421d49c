import TypedRows.Error
/-!
# Sequences as arrays

A sequence of sequences forms an array if the lengths agree on every level. `Cell.layOut` finds the levels
and their lengths, and `Layout.check` refuses lengths that do not agree. `Cell.leaves` are the items of the
array in order. A buffer that can change, or a view of one, is a row of numbers; every other cell that is
no list or tuple is an item.
-/

namespace TypedRows

/-- What is known of the array that a sequence forms, while its items are visited in order. -/
structure Layout where
  /-- The lengths on the levels from the outermost. -/
  shape : List Nat := []
  /-- The number of levels, as far as it is not yet ruled out. -/
  levels : Nat := maxLevels
  /-- An item that is no sequence, or an empty sequence, has been visited: the shape is complete. -/
  isComplete : Bool := false
  isRagged : Bool := false

namespace Layout

/-- A number stands on a level: the array has no further levels. -/
def putNumber (l : Layout) (level : Nat) : Layout :=
  { l with
    levels := level
    isComplete := true
    isRagged := l.isRagged || (level != l.levels && l.isComplete) }

/-- A sequence of a length stands on a level; the second part tells whether its items are visited. -/
def putSequence (l : Layout) (level length : Nat) : Layout × Bool :=
  if l.levels ≤ level then ({ l.putNumber level with isRagged := true }, false)
  else if !l.isComplete then
    ({ l with
       shape := l.shape ++ [length]
       levels := if length = 0 then level + 1 else l.levels
       isComplete := length == 0 }, length != 0)
  else if l.shape[level]? = some length then
    ({ l with levels := if length = 0 then level + 1 else l.levels }, length != 0)
  else ({ l with levels := level, isRagged := true }, false)

/-- A buffer stands on a level: a row of numbers. -/
def putBuffer (l : Layout) (level length : Nat) : Layout :=
  if l.levels ≤ level then { l with isComplete := true, isRagged := true }
  else
    let ragged := level + 1 != l.levels && l.isComplete
    if !l.isComplete then
      { l with shape := l.shape ++ [length], levels := level + 1, isComplete := true }
    else if l.shape[level]? = some length then
      { l with levels := level + 1, isRagged := l.isRagged || ragged }
    else { l with levels := level, isRagged := true }

/-- Refuses lengths that do not agree. -/
def check (l : Layout) : Except Error Unit :=
  if !l.isRagged then .ok ()
  else if l.levels = maxLevels then failValue .deepNesting
  else failValue (.ragged (l.shape.take l.levels))

end Layout

mutual

/-- Visits a cell on a level. -/
def Cell.layOut (l : Layout) (level : Nat) : Cell → Layout
  | .list items | .tuple items =>
    match l.putSequence level items.length with
    | (l, true) => layOutAll l (level + 1) items
    | (l, false) => l
  | .bytes .growable data | .bytes .view data => l.putBuffer level data.length
  | _ => l.putNumber level

def layOutAll (l : Layout) (level : Nat) : List Cell → Layout
  | [] => l
  | cell :: rest => layOutAll (cell.layOut l level) level rest

end

mutual

/-- The items of the array that a cell forms. -/
def Cell.leaves : Cell → List Cell
  | .list items | .tuple items => allLeaves items
  | .bytes .growable data | .bytes .view data =>
    data.map fun byte => .boxed (.int false 8 byte.toNat)
  | cell => [cell]

def allLeaves : List Cell → List Cell
  | [] => []
  | cell :: rest => cell.leaves ++ allLeaves rest

end

theorem allLeaves_eq_flatMap (cells : List Cell) : allLeaves cells = cells.flatMap Cell.leaves := by
  induction cells with
  | nil => rfl
  | cons cell rest ih => simp [allLeaves, ih]

end TypedRows
