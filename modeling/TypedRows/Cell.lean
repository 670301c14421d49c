import TypedRows.Blob
import TypedRows.Calendar.Proleptic
import TypedRows.Calendar.Time
import TypedRows.LargeObject
import TypedRows.Number.Decimal
import TypedRows.SqlType
/-!
# Cells

A `Cell` is any value that a driver returns in a row, that a record holds or that a statement binds,
before anything is known about its type. Scalars that come out of a typed array are `boxed`: they
carry the storage type of the array, and `unboxed` (`unwrap_scalar`) gives the plain value. Texts and bytes are stored in
fields of a fixed width, so that NUL characters at the end are taken for padding when they are unboxed.
-/

namespace TypedRows

/-- The three kinds of byte buffers. -/
inductive BufferForm where
  /-- Cannot be changed. -/
  | frozen
  | growable
  /-- A window on another buffer. -/
  | view
deriving DecidableEq, Repr

inductive FloatWidth where
  | half | single | double
deriving DecidableEq, Repr

def FloatWidth.round : FloatWidth → Double → Double
  | .half, x => (x.round .half).round .double
  | .single, x => (x.round .single).round .double
  | .double, x => x

inductive TimeUnit where
  | year | month | week | day | hour | minute | second | milli | micro | nano | pico | femto | atto
deriving DecidableEq, Repr

/-- A scalar of a typed array, with its storage type. -/
inductive Boxed where
  | bool (b : Bool)
  | int (signed : Bool) (width : Nat) (i : Int)
  | float (width : FloatWidth) (x : Double)
  | text (s : String)
  | bytes (data : Bytes)
  /-- A count of units since the start of 1970, or no instant. -/
  | instant (unit : TimeUnit) (count : Option Int)
deriving DecidableEq, Repr

/-- How a row object finds its columns by their names. -/
inductive NameMatch where
  /-- A name is found as it is written. -/
  | exact
  /-- A name of ASCII letters is found whatever their case, as the row objects of SQLite do it. -/
  | caseless
deriving DecidableEq, Repr

def NameMatch.holds (m : NameMatch) (column name : String) : Bool :=
  match m with
  | .exact => column == name
  | .caseless =>
    let (column, name) := (column.toList, name.toList)
    column == name ||
      ((column ++ name).all (fun c => c.toNat < 128) && column.map Char.toLower == name.map Char.toLower)

/-- The description of a column, with the driver's raw numbers. -/
structure ColumnOf (α : Type) where
  name : Option String
  sqlType : SqlType
  /-- The driver's flag as it was given. -/
  nullable : α
  typeCode : α
  displaySize : α
  internalSize : α
  precision : α
  scale : α
deriving Repr

/-- A value of any type. -/
inductive Cell where
  | null
  | bool (b : Bool)
  | int (i : Int)
  /-- A type code as a value; it is also the number of the type. -/
  | sqlType (t : SqlType)
  | float (x : Double)
  | complex (re im : Double)
  | decimal (d : Decimal)
  | fraction (q : Rat)
  | text (s : String)
  | bytes (form : BufferForm) (data : Bytes)
  | date (d : Date)
  /-- A time of day, perhaps at an offset in seconds from universal time. -/
  | time (t : TimeOfDay) (offset : Option Int)
  /-- An instant, perhaps at an offset in seconds from universal time. -/
  | datetime (d : DateTime) (offset : Option Int)
  | list (items : List Cell)
  | tuple (items : List Cell)
  /-- A map in order of insertion. -/
  | map (entries : List (Cell × Cell))
  /-- A row object that looks its columns up by name but is not a map. -/
  | keyed (names : NameMatch) (entries : List (String × Cell))
  | boxed (b : Boxed)
  | blob (b : Blob)
  | lob (h : LobHandle Cell)
  | column (c : ColumnOf Cell)
deriving Inhabited, Repr

abbrev Column := ColumnOf Cell

/-- The count that is stored for no instant, the least of eight bytes. -/
def noInstantCount : Int := -9223372036854775808

/-- A stored instant by its count of units. -/
def Boxed.ofCount (unit : TimeUnit) (count : Int) : Boxed :=
  .instant unit (if count = noInstantCount then none else some count)

/-- Days from the start of 1970 to the first day of a month, which is counted from January 1970. -/
def daysToMonth (months : Int) : Int :=
  ProlepticDate.daysBefore (1970 + months.fdiv 12) ((months.fmod 12).toNat + 1) - Date.epoch.dayNumber

namespace TimeUnit

def isDate : TimeUnit → Bool
  | .year | .month | .week | .day => true
  | _ => false

/-- The days from the start of 1970 that a count of one of the units of whole days makes. -/
def days (unit : TimeUnit) (count : Int) : Int :=
  match unit with
  | .year => daysToMonth (12 * count)
  | .month => daysToMonth count
  | .week => 7 * count
  | _ => count

/-- The digits of a fraction of a second that the unit counts. -/
def fractionDigits : TimeUnit → Nat
  | .milli => 3
  | .micro => 6
  | .nano => 9
  | .pico => 12
  | .femto => 15
  | .atto => 18
  | _ => 0

/-- How many of a unit shorter than a day make a day. -/
def perDay : TimeUnit → Nat
  | .hour => 24
  | .minute => 1440
  | unit => 86400 * Nat.pow 10 unit.fractionDigits

/-- The length of a unit shorter than a day in microseconds, if it is a whole number of them. -/
def micros? (unit : TimeUnit) : Option Nat :=
  if unit.isDate || 6 < unit.fractionDigits then none else some (microsPerDay / unit.perDay)

end TimeUnit

/-- The plain value of a stored instant: a date for the units of whole days and a date with a time for
the shorter ones down to the microsecond. Outside the years 1 to 9999, and for still shorter units, it is
the bare count. -/
def plainInstant (unit : TimeUnit) (count : Int) : Cell :=
  if unit.isDate then
    let day := unit.days count + Date.epoch.dayNumber
    if day < 0 then .int count
    else
      match Date.ofDayNumber? day.toNat with
      | some date => .date date
      | none => .int count
  else
    match unit.micros? with
    | none => .int count
    | some length =>
      match DateTime.ofEpochMicros? (count * length) with
      | some instant => .datetime instant none
      | none => .int count

/-- The items of a list up to the last that is not padding. -/
def withoutPadding {α : Type} [BEq α] (padding : α) (items : List α) : List α :=
  (items.reverse.dropWhile (· == padding)).reverse

/-- A text without NUL characters at its end. -/
def unpaddedText (s : String) : String := String.ofList (withoutPadding '\x00' s.toList)

/-- Bytes without zeros at their end. -/
def unpaddedBytes (data : Bytes) : Bytes := withoutPadding 0 data

def Boxed.plain : Boxed → Cell
  | .bool b => .bool b
  | .int _ _ i => .int i
  | .float _ x => .float x
  | .text s => .text (unpaddedText s)
  | .bytes data => .bytes .frozen (unpaddedBytes data)
  | .instant unit (some count) => plainInstant unit count
  | .instant _ none => .null

namespace Cell

/-- The cell with a boxed scalar taken out of its box (`unwrap_scalar`). -/
def unboxed : Cell → Cell
  | .boxed b => b.plain
  | cell => cell

def isNull : Cell → Bool
  | .null => true
  | _ => false

/-- Boxed texts, bytes and doubles are texts, bytes and doubles, padding included; other boxed scalars are
not what is in the box. -/
def relaxed : Cell → Cell
  | .boxed (.text s) => .text s
  | .boxed (.bytes data) => .bytes .frozen data
  | .boxed (.float .double x) => .float x
  | cell => cell

def asText? (cell : Cell) : Option String :=
  match cell.relaxed with
  | .text s => some s
  | _ => none

/-- The integer in the cell; a truth value is none. -/
def asInt? : Cell → Option Int
  | .int i => some i
  | .sqlType t => some t.code
  | _ => none

end Cell

end TypedRows
