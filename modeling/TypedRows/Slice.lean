/-!
# Slices of lists

The items of a list at every `step`-th position from a start to before a stop. Negative positions count
from the end, positions outside the list are moved to its ends, and a negative step goes backwards.
-/

namespace TypedRows

/-- The bounds of a slice; each may be missing. -/
structure SliceBounds where
  start : Option Int
  stop : Option Int
  step : Option Int
deriving DecidableEq, Repr

namespace SliceBounds

/-- A position counted from the end if it is negative. -/
def fromEnd (size : Nat) (position : Int) : Int :=
  if position < 0 then position + size else position

/-- A position moved into the range of a forward or a backward slice. -/
def clamp (size : Nat) (backward : Bool) (position : Int) : Int :=
  let least : Int := if backward then -1 else 0
  let most : Int := if backward then size - 1 else size
  max least (min most (fromEnd size position))

def first (b : SliceBounds) (size : Nat) (backward : Bool) : Int :=
  match b.start with
  | some position => clamp size backward position
  | none => if backward then size - 1 else 0

def last (b : SliceBounds) (size : Nat) (backward : Bool) : Int :=
  match b.stop with
  | some position => clamp size backward position
  | none => if backward then -1 else size

/-- The positions of the slice in a list of the given size, for a step that is not zero. -/
def positions (b : SliceBounds) (size : Nat) : List Nat :=
  let step := b.step.getD 1
  let backward : Bool := step < 0
  let first := b.first size backward
  let last := b.last size backward
  let distance := if backward then first - last else last - first
  let count := (distance + step.natAbs - 1) / step.natAbs
  (List.range count.toNat).map fun (i : Nat) => (first + step * (i : Int)).toNat

/-- The items of the slice, for a step that is not zero. -/
def of {α : Type} (b : SliceBounds) (items : List α) : List α :=
  (b.positions items.length).filterMap (items[·]?)

end SliceBounds

example : (SliceBounds.mk none none (some (-1))).of [1, 2, 3] = [3, 2, 1] := by decide

end TypedRows
