import TypedRows.Cell
/-!
# Names of the types of cells

`typeName` is the short name of the type of a cell. `fullTypeName` puts the module in front for the
types whose module is always named.
-/

namespace TypedRows

def TimeUnit.symbol : TimeUnit → String
  | .year => "Y"
  | .month => "M"
  | .week => "W"
  | .day => "D"
  | .hour => "h"
  | .minute => "m"
  | .second => "s"
  | .milli => "ms"
  | .micro => "us"
  | .nano => "ns"
  | .pico => "ps"
  | .femto => "fs"
  | .atto => "as"

def TimeUnit.ofSymbol? (symbol : String) : Option TimeUnit :=
  [TimeUnit.year, .month, .week, .day, .hour, .minute, .second, .milli, .micro, .nano, .pico, .femto,
    .atto].find? fun unit => unit.symbol == symbol

def FloatWidth.bits : FloatWidth → Nat
  | .half => 16
  | .single => 32
  | .double => 64

/-- The name of the storage type of a boxed scalar. -/
def Boxed.typeName : Boxed → String
  | .bool _ => "bool"
  | .int signed width _ => (if signed then "int" else "uint") ++ toString width
  | .float width _ => "float" ++ toString width.bits
  | .text _ => "str_"
  | .bytes _ => "bytes_"
  | .instant .. => "datetime64"

namespace Cell

/-- The short name of the type. -/
def typeName : Cell → String
  | .null => "NoneType"
  | .bool _ => "bool"
  | .int _ => "int"
  | .sqlType _ => "SqlType"
  | .float _ => "float"
  | .complex .. => "complex"
  | .decimal _ => "Decimal"
  | .fraction _ => "Fraction"
  | .text _ => "str"
  | .bytes .frozen _ => "bytes"
  | .bytes .growable _ => "bytearray"
  | .bytes .view _ => "memoryview"
  | .date _ => "date"
  | .time .. => "time"
  | .datetime .. => "datetime"
  | .list _ => "list"
  | .tuple _ => "tuple"
  | .map _ => "dict"
  | .keyed .exact _ => "KeyedRow"
  | .keyed .caseless _ => "Row"
  | .boxed b => b.typeName
  | .blob _ => "Blob"
  | .lob _ => "Lob"
  | .column _ => "ColumnInfo"

/-- The name of the type, with its module where that is part of the name. -/
def fullTypeName (cell : Cell) : String :=
  match cell with
  | .decimal _ => "decimal." ++ cell.typeName
  | .date _ | .time .. | .datetime .. => "datetime." ++ cell.typeName
  | .boxed _ => "numpy." ++ cell.typeName
  | _ => cell.typeName

end Cell

end TypedRows
