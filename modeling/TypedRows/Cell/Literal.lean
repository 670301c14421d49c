import TypedRows.Calendar.IsoText
import TypedRows.Cell.TypeName
/-!
# Cells as text

`literal` writes a cell so that its type can be seen, as error messages show it: text and bytes are
quoted and the other types carry their names. `plainText` is the text that a cell becomes when it is
bound as text. The two differ only in the cells that have a text of their own.
-/

namespace TypedRows

def boolText (b : Bool) : String := if b then "True" else "False"

def bracketed (start stop : String) (items : List String) : String :=
  start ++ String.intercalate ", " items ++ stop

/-- A tuple. A single item is followed by a comma. -/
def tupleText : List String → String
  | [item] => "(" ++ item ++ ",)"
  | items => bracketed "(" ")" items

def callText (name : String) (arguments : List String) : String := name ++ bracketed "(" ")" arguments

/-- Numbers without those at the end that are zero. -/
def dropZeros (numbers : List Nat) : List Nat := (numbers.reverse.dropWhile (· == 0)).reverse

/-- The hour and the minute, and the second and the microsecond if they are not zero. -/
def TimeOfDay.arguments (t : TimeOfDay) : List String :=
  (t.hour :: t.minute :: dropZeros [t.second, t.micro]).map toString

def Date.arguments (d : Date) : List String := [d.year, d.month, d.day].map toString

/-- A length of time in seconds, in whole days and the seconds left. -/
def durationLiteral (seconds : Int) : String :=
  let days := seconds.fdiv 86400
  let rest := seconds.fmod 86400
  callText "datetime.timedelta"
    (if days = 0 then (if rest = 0 then ["0"] else ["seconds=" ++ toString rest])
     else ("days=" ++ toString days) :: (if rest = 0 then [] else ["seconds=" ++ toString rest]))

def zoneLiteral (offset : Int) : String :=
  if offset = 0 then "datetime.timezone.utc"
  else callText "datetime.timezone" [durationLiteral offset]

def zoneArgument : Option Int → List String
  | none => []
  | some offset => ["tzinfo=" ++ zoneLiteral offset]

def Date.literal (d : Date) : String := callText "datetime.date" d.arguments

def TimeOfDay.literal (t : TimeOfDay) (offset : Option Int) : String :=
  callText "datetime.time" (t.arguments ++ zoneArgument offset)

def DateTime.literal (d : DateTime) (offset : Option Int) : String :=
  callText "datetime.datetime" (d.date.arguments ++ d.time.arguments ++ zoneArgument offset)

/-- A type code, with its number. -/
def SqlType.literal (t : SqlType) : String := "<SqlType." ++ t.name ++ ": " ++ toString t.code ++ ">"

def ratioText (q : Rat) : String :=
  if q.den = 1 then toString q.num else toString q.num ++ "/" ++ toString q.den

/-- A buffer that is shown by its place in memory, which tells nothing about it. -/
def viewLiteral : String := "<memory at 0x0>"

def bufferLiteral : BufferForm → Bytes → String
  | .frozen, data => Text.quotedBytes data
  | .growable, data => callText "bytearray" [Text.quotedGrowable data]
  | .view, _ => viewLiteral

/-- A year in at least four characters, the sign of one before year 0 included. -/
def yearText (year : Int) : String :=
  if year < 0 then "-" ++ padded 3 year.natAbs else padded 4 year.toNat

/-- A date as far as a unit goes. -/
def TimeUnit.dateText (unit : TimeUnit) (d : ProlepticDate) : String :=
  match unit with
  | .year => yearText d.year
  | .month => yearText d.year ++ "-" ++ padded 2 d.month
  | _ => yearText d.year ++ "-" ++ padded 2 d.month ++ "-" ++ padded 2 d.day

/-- A time of day as far as a unit goes, by the count of units since midnight. -/
def TimeUnit.clockText (unit : TimeUnit) (n : Nat) : String :=
  match unit with
  | .hour => padded 2 n
  | .minute => padded 2 (n / 60) ++ ":" ++ padded 2 (n % 60)
  | unit =>
    let seconds := n / Nat.pow 10 unit.fractionDigits
    padded 2 (seconds / 3600) ++ ":" ++ padded 2 (seconds / 60 % 60) ++ ":" ++ padded 2 (seconds % 60) ++
      (if unit.fractionDigits = 0 then ""
       else "." ++ padded unit.fractionDigits (n % Nat.pow 10 unit.fractionDigits))

/-- A stored instant, as far as its unit goes. -/
def instantText (unit : TimeUnit) : Option Int → String
  | none => "NaT"
  | some count =>
    if unit.isDate then
      unit.dateText (.ofDayNumber (unit.days count + Date.epoch.dayNumber))
    else
      unit.dateText (.ofDayNumber (count.fdiv unit.perDay + Date.epoch.dayNumber)) ++ "T" ++
        unit.clockText (count.fmod unit.perDay).toNat

/-- The text of a stored instant tells its unit. That of no instant does not, and that of whole hours looks
like the start of a longer one. -/
def showsUnit (unit : TimeUnit) (count : Option Int) : Bool := count.isSome && unit != .hour

/-- A stored number: the shortest text that reads back as the same number of its width. -/
def FloatWidth.text : FloatWidth → Double → String
  | .half, x => (x.round .half).text
  | .single, x => (x.round .single).text
  | .double, x => x.text

/-- A boxed scalar, with the name of its storage type. A boxed truth value is a constant, whose name ends in
an underscore. -/
def Boxed.literal (b : Boxed) : String :=
  match b with
  | .bool value => "np." ++ boolText value ++ "_"
  | .int _ _ i => callText ("np." ++ b.typeName) [toString i]
  | .float width x => callText ("np." ++ b.typeName) [width.text x]
  | .text s => callText "np.str_" [Text.quoted (unpaddedText s)]
  | .bytes data => callText "np.bytes_" [Text.quotedBytes (unpaddedBytes data)]
  | .instant unit count =>
    "np.datetime64(" ++ Text.quoted (instantText unit count) ++
      (if showsUnit unit count then "" else "," ++ Text.quoted unit.symbol) ++ ")"

mutual

/-- The cell as error messages show it. -/
def Cell.literal : Cell → String
  | .null => "None"
  | .bool b => boolText b
  | .int i => toString i
  | .sqlType t => t.literal
  | .float x => x.text
  | .complex re im => complexText re im
  | .decimal d => "Decimal('" ++ d.text ++ "')"
  | .fraction q => callText "Fraction" [toString q.num, toString q.den]
  | .text s => Text.quoted s
  | .bytes form data => bufferLiteral form data
  | .date d => d.literal
  | .time t offset => t.literal offset
  | .datetime d offset => d.literal offset
  | .list items => bracketed "[" "]" (literals items)
  | .tuple items => tupleText (literals items)
  | .map entries => bracketed "\x7b" "\x7d" (entryLiterals entries)
  | .keyed .. => "<row at 0x0>"
  | .boxed b => b.literal
  | .blob b => b.text
  | .lob _ => "<lob>"
  | .column c =>
    callText "ColumnInfo" ["name=" ++ Text.quotedOrNone c.name, "sql_type=" ++ c.sqlType.name,
      "nullable=" ++ c.nullable.literal]

def literals : List Cell → List String
  | [] => []
  | cell :: rest => cell.literal :: literals rest

def entryLiterals : List (Cell × Cell) → List String
  | [] => []
  | (key, value) :: rest => (key.literal ++ ": " ++ value.literal) :: entryLiterals rest

end

/-- A boxed scalar without the name of its storage type. -/
def Boxed.plainText : Boxed → String
  | .bool b => boolText b
  | .int _ _ i => toString i
  | .float width x => width.text x
  | .text s => unpaddedText s
  | .bytes data => Text.quotedBytes (unpaddedBytes data)
  | .instant unit count => instantText unit count

/-- The text that a cell becomes when it is bound as text. -/
def Cell.plainText : Cell → String
  | .sqlType t => toString t.code
  | .decimal d => d.text
  | .fraction q => ratioText q
  | .text s => s
  | .date d => d.isoText
  | .time t offset => t.isoText offset
  | .datetime d offset => d.isoText " " offset
  | .boxed b => b.plainText
  | cell => cell.literal

/-- The text of a cell inside a message: the text that it becomes when it is bound, but a boxed number is
shown as a double. -/
def Cell.formatted : Cell → String
  | .boxed (.float _ x) => x.text
  | cell => cell.plainText

end TypedRows
