import TypedRows.Cell.Layout
import TypedRows.Cell.Number
import TypedRows.Cell.Storage
import TypedRows.Entries
/-!
# Equality of cells

There are two relations. `Cell.sameKey` tells whether two cells are one key of a table. It compares values
and not types: all numbers with each other by their exact values, all buffers with each other, instants at
different offsets by the point in time.

`Cell.alike` is equality as it is asked of values. It differs from the first relation where a boxed scalar
meets a cell that is not boxed. A number is brought to the type of the box, so that a number of single
precision is alike the double that it was rounded from; a stored instant is compared by its plain value; a
sequence becomes an array, every item of which is compared with the scalar, and there must be just one. A
comparison with a signaling decimal is refused.

The undefined number is neither alike nor the same key as anything, not even itself.
-/

namespace TypedRows

/-! ## Cells without parts -/

/-- Equality of times of day: both without an offset, or the same count at universal time. -/
def TimeOfDay.alike (t : TimeOfDay) (offset : Option Int) (t' : TimeOfDay) (offset' : Option Int) :
    Bool :=
  match offset, offset' with
  | none, none => t == t'
  | some o, some o' =>
    (t.micros : Int) - o * microsPerSecond == (t'.micros : Int) - o' * microsPerSecond
  | _, _ => false

/-- Equality of instants: both without an offset, or the same point in time. -/
def DateTime.alike (d : DateTime) (offset : Option Int) (d' : DateTime) (offset' : Option Int) : Bool :=
  match offset, offset' with
  | none, none => d == d'
  | some o, some o' =>
    (d.micros : Int) - o * microsPerSecond == (d'.micros : Int) - o' * microsPerSecond
  | _, _ => false

/-- The point in time of a stored instant, in the shortest unit since the start of 1970. -/
def TimeUnit.moment (unit : TimeUnit) (count : Int) : Int :=
  if unit.isDate then unit.days count * TimeUnit.perDay .atto
  else count * (TimeUnit.perDay .atto / unit.perDay : Nat)

/-- Equality of stored instants: the same point in time. -/
def sameMoment (unit : TimeUnit) (count : Option Int) (unit' : TimeUnit) (count' : Option Int) : Bool :=
  match count, count' with
  | some n, some n' => unit.moment n == unit'.moment n'
  | _, _ => false

/-- Equality of numbers, given by their real and imaginary parts. -/
def alikeNumbers (x y : Quantity × Quantity) : Except Error Bool :=
  if x.2.alike? y.2 = some true then
    match x.1.alike? y.1 with
    | some same => .ok same
    | none => .error .undefinedComparison
  else .ok false

namespace Cell

/-- Equality of cells that have no parts and are not both numbers. -/
def alikeOthers (a b : Cell) : Bool :=
  match a.relaxed, b.relaxed with
  | .null, .null => true
  | .text s, .text s' => s == s'
  | .bytes _ data, .bytes _ data' => data == data'
  | .date d, .date d' => d == d'
  | .time t offset, .time t' offset' => t.alike offset t' offset'
  | .datetime d offset, .datetime d' offset' => d.alike offset d' offset'
  | .blob b, .blob b' => b.data == b'.data
  | .lob h, .lob h' => h.id == h'.id
  | .boxed (.instant unit count), .boxed (.instant unit' count') => sameMoment unit count unit' count'
  | _, _ => false

/-- Equality of cells without parts. Numbers are compared in the type of a box. -/
def alikeSimple (a b : Cell) : Except Error Bool := do
  match ← a.complexBeside b, ← b.complexBeside a with
  | some x, some y => alikeNumbers x y
  | _, _ => return a.alikeOthers b

/-- Cells without parts are the same key. Numbers are compared by their exact values. -/
def sameSimpleKey (a b : Cell) : Bool :=
  match a.complexQuantity?, b.complexQuantity? with
  | some x, some y => (alikeNumbers x y matches .ok true)
  | _, _ => a.alikeOthers b

end Cell

/-! ## Boxed scalars -/

/-- A cell is of a type that an array stores in a form of its own, so that it keeps that form beside a
stored instant. -/
def Cell.isNative : Cell → Bool
  | .null | .bool _ | .int _ | .sqlType _ | .float _ | .complex .. | .text _ | .bytes .. | .boxed _ => true
  | _ => false

/-- Equality of a boxed scalar and a cell that is no sequence. A stored instant counts as its plain value
where the cell is not of a native type. -/
def Boxed.alike (b : Boxed) (cell : Cell) : Except Error Bool :=
  match b with
  | .instant .. => (if cell.isNative then .boxed b else b.plain).alikeSimple cell
  | b => (Cell.boxed b).alikeSimple cell

/-- An integer as it is stored in an array: in eight bytes if it fits. -/
def storedInteger? (i : Int) : Option Boxed :=
  if -(Nat.pow 2 63 : Int) ≤ i ∧ i < Nat.pow 2 63 then some (.int true 64 i)
  else if 0 ≤ i ∧ i < Nat.pow 2 64 then some (.int false 64 i)
  else none

/-- A boxed scalar as a double, if it is a floating point number. -/
def Boxed.widened : Boxed → Boxed
  | .float _ x => .float .double x
  | b => b

/-- Equality of a boxed scalar and an item of an array. Both have storage types, so a number is compared
by its value; items without a storage type are compared with the plain value. -/
def Boxed.alikeItem (b : Boxed) (item : Cell) : Except Error Bool :=
  match item with
  | .bool value => b.alike (.boxed (.bool value))
  | .int i =>
    match storedInteger? i with
    | some stored => b.alike (.boxed stored)
    | none => b.plain.alikeSimple item
  | .float x => b.alike (.boxed (.float .double x))
  | .complex .. => b.widened.alike item
  | .sqlType _ | .text _ | .bytes .. | .boxed _ => b.alike item
  | item => b.plain.alikeSimple item

/-- Equality of a boxed scalar and the array that a sequence forms. The array answers for each of its items,
and only the answer of an array of one item is a truth value. -/
def Boxed.alikeArray (b : Boxed) (array : Cell) : Except Error Bool := do
  (array.layOut {} 0).check
  match ← array.leaves.mapM b.alikeItem with
  | [] => failValue .emptyArray
  | [answer] => return answer
  | _ => failValue .severalItems

/-- The scalar is compared with sequences item by item: it is neither a text nor bytes. -/
def Boxed.isNumeric : Boxed → Bool
  | .text _ | .bytes _ => false
  | _ => true

/-- The cell is a sequence that can be an array. -/
def Cell.isArray : Cell → Bool
  | .list _ | .tuple _ | .bytes .growable _ | .bytes .view _ => true
  | _ => false

/-- Equality of cells of which at most one is a list, a tuple or a map. A buffer before a boxed scalar is
compared with the bytes of the storage, if it can change, and is no array. -/
def Cell.alikeMixed (a b : Cell) : Except Error Bool :=
  match a, b with
  | .bytes .growable data, .boxed box => .ok (data == box.storage)
  | .boxed (.text s), .bytes .growable data => .ok (data == (Boxed.text s).storage)
  | .bytes .view _, .boxed _ => a.alikeSimple b
  | .boxed box, cell | cell, .boxed box =>
    if box.isNumeric && cell.isArray then box.alikeArray cell
    else box.alike cell
  | a, b => a.alikeSimple b

/-! ## Keys -/

mutual

/-- The cells are the same key of a table. -/
def Cell.sameKey : Cell → Cell → Bool
  | .tuple items, .tuple items' => sameKeys items items'
  | a, b => a.sameSimpleKey b

def sameKeys : List Cell → List Cell → Bool
  | [], [] => true
  | a :: rest, b :: rest' => a.sameKey b && sameKeys rest rest'
  | _, _ => false

end

instance : BEq Cell := ⟨Cell.sameKey⟩

mutual

/-- The first part of the cell that cannot be a key of a table. -/
def Cell.unhashable? : Cell → Option Cell
  | .list items => some (.list items)
  | .map entries => some (.map entries)
  | .bytes .growable data => some (.bytes .growable data)
  | .blob b => some (.blob b)
  | .column c => some (.column c)
  | .decimal (.undefined negative true payload) =>
    some (.decimal (.undefined negative true payload))
  | .tuple items => firstUnhashable? items
  | _ => none

def firstUnhashable? : List Cell → Option Cell
  | [] => none
  | cell :: rest =>
    match cell.unhashable? with
    | some part => some part
    | none => firstUnhashable? rest

end

/-- The map with the given entries, of which a later one replaces the value of an earlier one with the
same key. -/
def Cell.ofEntries (entries : List (Cell × Cell)) : Cell := .map (Entries.ofPairs entries)

/-! ## Equality -/

mutual

/-- Equality of two cells. -/
def Cell.alike : Cell → Cell → Except Error Bool
  | .list items, .list items' =>
    if items.length = items'.length then alikeAll items items' else .ok false
  | .tuple items, .tuple items' => alikeAll items items'
  | .map entries, .map entries' =>
    if entries.length = entries'.length then alikeEntries entries entries' else .ok false
  | .column c, .column c' =>
    if c.name = c'.name ∧ c.sqlType = c'.sqlType then c.nullable.alike c'.nullable else .ok false
  | a, b => a.alikeMixed b

/-- Equality item by item, up to the first difference. -/
def alikeAll : List Cell → List Cell → Except Error Bool
  | [], [] => .ok true
  | a :: rest, b :: rest' =>
    match a.alike b with
    | .ok true => alikeAll rest rest'
    | answer => answer
  | _, _ => .ok false

/-- The keys of the first list have values in the second that are alike, up to the first key that has
none. -/
def alikeEntries : List (Cell × Cell) → List (Cell × Cell) → Except Error Bool
  | [], _ => .ok true
  | (key, value) :: rest, entries =>
    match Entries.get? entries key with
    | none => .ok false
    | some value' =>
      match value.alike value' with
      | .ok true => alikeEntries rest entries
      | answer => answer

end

end TypedRows
