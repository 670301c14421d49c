import TypedRows.SqlType.Coercion
import TypedRows.Kind
import TypedRows.Cell.LongInteger
import TypedRows.Cell.Order
import TypedRows.Cell.Single
import TypedRows.LargeObject
/-!
# Statements

A `Statement` collects the parameters of a prepared statement. Each setter converts its value, checks it
and stores it at a position counted from 1; a later value at a position replaces an earlier one. The log
of bindings keeps every value in the order in which it was set. A statement whose parameters are complete
can be executed.
-/

namespace TypedRows

/-- The setters of a statement, one for each type of parameter. -/
inductive Setter where
  | null | string | boolean | short | int | long | float | double | bytes | blob | date | time | timestamp
deriving DecidableEq, Repr

namespace Setter

def all : List Setter :=
  [.null, .string, .boolean, .short, .int, .long, .float, .double, .bytes, .blob, .date, .time,
   .timestamp]

def name : Setter → String
  | .null => "null"
  | .string => "string"
  | .boolean => "boolean"
  | .short => "short"
  | .int => "int"
  | .long => "long"
  | .float => "float"
  | .double => "double"
  | .bytes => "bytes"
  | .blob => "blob"
  | .date => "date"
  | .time => "time"
  | .timestamp => "timestamp"

def ofName? (name : String) : Option Setter := all.find? fun s => s.name == name

end Setter

/-- The integer, if it lies in the range, ends included; `target` names the range (`check_range`). -/
def checkRange (range : Int × Int) (target : String) (i : Int) : Except Error Int :=
  if range.1 ≤ i ∧ i ≤ range.2 then .ok i
  else RangeFault.refuse (.target (.int i) (.int range.1) (.int range.2) target)

/-- The cell, if it lies between two others, ends included; `target` names the range. -/
def checkBetween (lower upper : Cell) (target : String) (value : Cell) : Except Error Cell := do
  if ← lower.le value then
    if ← value.le upper then return value
  RangeFault.refuse (.target value lower upper target)

def int16Range : Int × Int := (-32768, 32767)

/-- What a setter stores: a value, and for a null the type of the column. -/
structure Parameter where
  value : Cell
  type : Option SqlType

namespace Setter

def plain (value : Cell) : Parameter := ⟨value, none⟩

def ranged (range : Int × Int) (target : String) (value : Cell) : Except Error Parameter := do
  return plain (.int (← checkRange range target (← value.toInteger)))

/-- The parameter that the setter makes of a value. To set a null, the value is the code of its type. -/
def convert (setter : Setter) (value : Cell) : Except Error Parameter :=
  match setter with
  | .null => (SqlType.coerce value none).map fun type => ⟨.null, some type⟩
  | .string => value.toText.map fun s => plain (.text s)
  | .boolean => .ok (plain (.bool value.truth))
  | .short => ranged int16Range "short" value
  | .int => ranged Kind.int32Range "int" value
  | .long => ranged Kind.int64Range "long" value
  | .float => value.toSingle.map fun x => plain (.float x)
  | .double => value.toDouble.map fun x => plain (.float x)
  | .bytes => value.toBytes.map fun data => plain (.bytes .frozen data)
  | .blob | .date | .time | .timestamp => .ok (plain value)

end Setter

/-- A parameter that was set. -/
structure Binding where
  setter : Setter
  /-- Counted from 1. -/
  index : Int
  parameter : Parameter

/-- A prepared statement with its parameters. -/
structure Statement where
  sql : String
  /-- The number of parameters. -/
  count : Int
  dialect : Option String
  /-- What was set, in order, since the parameters were last cleared. -/
  bindings : List Binding
  /-- The value at each position, if one was set. -/
  slots : List (Option Cell)

namespace Statement

def emptySlots (count : Int) : List (Option Cell) := List.replicate count.toNat none

def ofSql (sql : String) (count : Int) (dialect : Option String) : Statement :=
  ⟨sql, count, dialect, [], emptySlots count⟩

def clear (s : Statement) : Statement := { s with bindings := [], slots := emptySlots s.count }

def bind (s : Statement) (b : Binding) : Except Error Statement :=
  if 1 ≤ b.index ∧ b.index ≤ s.count then
    .ok { s with
      bindings := s.bindings ++ [b]
      slots := s.slots.set (b.index - 1).toNat (some b.parameter.value) }
  else .error (.position (.parameter b.index s.count))

/-- Converts a value and stores it. -/
def set (s : Statement) (setter : Setter) (index : Int) (value : Cell) : Except Error Statement := do
  s.bind ⟨setter, index, ← setter.convert value⟩

def isComplete (s : Statement) : Bool := s.slots.all Option.isSome

/-- The positions without a value, counted from 1. -/
def unbound (s : Statement) : List Nat :=
  (List.range s.slots.length).filter (fun i => (s.slots[i]?.join).isNone) |>.map (· + 1)

/-- A date, a time or an instant as text; other cells are left as they are. -/
def temporalText : Cell → Cell
  | .date d => .text d.isoText
  | .time t offset => .text (t.isoText offset)
  | .datetime d offset => .text (d.isoText "T" offset)
  | cell => cell

/-- The value as it is sent to the driver: of a large object its bytes, and for SQLite, which has no
types for dates and times, these as text (`_adapt_sqlite`). -/
def sent (s : Statement) (value : Cell) : Cell :=
  match value with
  | .blob b => .bytes .frozen b.data
  | value => if s.dialect = some Dialect.sqlite.name then temporalText value else value

/-- The values that are sent to the driver. All positions must have one. -/
def parameters (s : Statement) : Except Error (List Cell) :=
  match s.unbound with
  | [] => .ok ((s.slots.filterMap id).map s.sent)
  | first :: rest => failValue (.unbound first rest)

def literal (s : Statement) : String :=
  callText "Statement" [Text.quoted s.sql, toString s.count]

end Statement

/-! ## Execution -/

/-- What is sent to a driver to execute a statement. -/
structure ExecuteCall where
  sql : String
  parameters : List Cell

/-- The calls that the execution of a statement makes and its outcome, if the driver gives the answer. A
statement that lacks values is not sent. -/
def Statement.execute {α : Type} (s : Statement) (answer : Except Fault α) :
    List ExecuteCall × Except Error α :=
  match s.parameters with
  | .error e => ([], .error e)
  | .ok values => ([⟨s.sql, values⟩], answer.mapError .fault)

end TypedRows
