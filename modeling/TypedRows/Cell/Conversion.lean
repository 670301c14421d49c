import TypedRows.Cell.Equality
import TypedRows.Number.Numeral
/-!
# Conversion of cells

The conversions that statements and columns apply to values of any type: to a truth value, a key of a
table, an integer, a double and bytes. Each accepts what can be read as its result and refuses the rest
with the reason.
-/

namespace TypedRows

/-- Bytes as text. A byte that is no ASCII character stands for one that no number is written with. -/
def asciiText (data : Bytes) : String :=
  String.ofList (data.map fun byte => if byte < 128 then Char.ofNat byte.toNat else '\uFFFD')

/-! ## Truth -/

def Boxed.truth : Boxed → Bool
  | .bool b => b
  | .int _ _ i => i != 0
  | .float _ x => !x.isZero
  | .text s => s != ""
  | .bytes data => !data.isEmpty
  | .instant _ count => count != some 0

/-- A cell counts as true: it is not null, not a zero and not empty. -/
def Cell.truth : Cell → Bool
  | .null => false
  | .bool b => b
  | .int i => i != 0
  | .sqlType t => t.code != 0
  | .float x => !x.isZero
  | .complex re im => !(re.isZero && im.isZero)
  | .decimal (.finite _ coefficient _) => coefficient != 0
  | .fraction q => q != 0
  | .text s => s != ""
  | .bytes _ data => !data.isEmpty
  | .list items | .tuple items => !items.isEmpty
  | .map entries => !entries.isEmpty
  | .keyed .caseless entries => !entries.isEmpty
  | .boxed b => b.truth
  | _ => true

/-! ## Keys -/

/-- Refuses a cell that cannot be a key of a table. -/
def Cell.checkKey (cell : Cell) : Except Error Unit :=
  match cell.unhashable? with
  | some (.decimal _) => failType .signalingKey
  | some part => failType (.unhashable part.fullTypeName)
  | none => .ok ()

/-! ## Integers -/

/-- The integer that a text writes; `literal` is the text as messages show it. Digits are counted before
anything that follows them is looked at, except for an underscore, which belongs to them and must stand
between two. -/
def readInteger (literal text : String) : Except Error Int :=
  let (digits, rest) := Numeral.spanInteger text
  let malformed : Except Error Int := failValue (.integerText (String.ofList (literal.toList.take 200)))
  if digits.digits.isEmpty || rest.head? == some '_' then malformed
  else if maxIntegerDigits < digits.digits.length then failValue (.manyDigits digits.digits.length)
  else if rest.isEmpty then .ok digits.value
  else malformed

/-- How many bytes a message shows of those that write no integer. -/
def shownBytes : Nat := 200

/-- The integer nearest to a rational number on the side of zero. -/
def truncateRat (q : Rat) : Int := q.num.tdiv q.den

def truncateDouble (x : Double) : Except Error Int :=
  match x.truncate? with
  | some i => .ok i
  | none => if x.isNaN then failValue .undefinedInteger else failOverflow .infiniteInteger

/-- Buffers of this many bytes and integers of this many digits find no room in memory. -/
def memoryLimit : Int := Nat.pow 2 36

/-- A finite decimal without its fraction. One that is too long to be written is refused before it is
computed. -/
def truncateFinite (negative : Bool) (coefficient : Nat) (exponent : Int) : Except Error Int :=
  let places := exponent + (digitChars coefficient).length
  if coefficient = 0 ∨ places ≤ 0 then .ok 0
  else if memoryLimit ≤ places then .error .memory
  else if maxIntegerDigits < places then failValue .longInteger
  else
    let size : Int := (coefficient * Nat.pow 10 exponent.toNat / Nat.pow 10 (-exponent).toNat : Nat)
    .ok (if negative then -size else size)

def truncateDecimal (d : Decimal) : Except Error Int :=
  match d with
  | .finite negative coefficient exponent => truncateFinite negative coefficient exponent
  | .infinite _ => failOverflow .infiniteDecimalInteger
  | .undefined .. => failValue .undefinedDecimalInteger

/-- The integer that bytes write. Messages show only their beginning. -/
def readIntegerBytes (data : Bytes) : Except Error Int :=
  readInteger (Text.quotedBytes (data.take shownBytes)) (asciiText data)

/-- The integer in a boxed scalar: texts and bytes are read with their padding, instants are taken by their
plain value. -/
def Boxed.toInteger (b : Boxed) : Except Error Int :=
  match b with
  | .bool value => .ok (boolNumber value)
  | .int _ _ i => .ok i
  | .float _ x => truncateDouble x
  | .text s => readInteger b.literal s
  | .bytes data => readIntegerBytes data
  | .instant .. =>
    match b.plain with
    | .int i => .ok i
    | plain => failType (.notInteger plain.fullTypeName)

/-- The integer in a cell, of a number without its fraction, or written by a text. -/
def Cell.toInteger (cell : Cell) : Except Error Int :=
  match cell with
  | .bool b => .ok (boolNumber b)
  | .int i => .ok i
  | .sqlType t => .ok t.code
  | .float x => truncateDouble x
  | .decimal d => truncateDecimal d
  | .fraction q => .ok (truncateRat q)
  | .text s => readInteger cell.literal s
  | .bytes _ data => readIntegerBytes data
  | .boxed b => b.toInteger
  | _ => failType (.notInteger cell.fullTypeName)

/-! ## Doubles -/

/-- The double nearest to a fraction. -/
def doubleOfRat (q : Rat) : Except Error Double :=
  let x : Double := .ofRat q
  if x.isInfinite then failOverflow .quotient else .ok x

/-- The double nearest to a decimal; a large decimal becomes infinite. -/
def doubleOfDecimal (d : Decimal) : Except Error Double :=
  match d.toDouble? with
  | some x => .ok x
  | none => failValue .signalingNumber

/-- The double that a text writes; `literal` is the text as messages show it. -/
def readDouble (literal text : String) : Except Error Double :=
  match Numeral.double? text with
  | some x => .ok x
  | none => failValue (.numberText literal)

def Boxed.toDouble (b : Boxed) : Except Error Double :=
  match b with
  | .bool value => doubleOfInt (boolNumber value)
  | .int _ _ i => doubleOfInt i
  | .float _ x => .ok x
  | .text s => readDouble b.literal s
  | .bytes data => readDouble b.literal (asciiText data)
  | .instant .. =>
    match b.plain with
    | .int i => doubleOfInt i
    | plain => failType (.notNumber plain.fullTypeName)

/-- The double nearest to a number, or written by a text. -/
def Cell.toDouble (cell : Cell) : Except Error Double :=
  match cell with
  | .bool b => doubleOfInt (boolNumber b)
  | .int i => doubleOfInt i
  | .sqlType t => doubleOfInt t.code
  | .float x => .ok x
  | .decimal d => doubleOfDecimal d
  | .fraction q => doubleOfRat q
  | .text s => readDouble cell.literal s
  | .bytes _ data => readDouble cell.literal (asciiText data)
  | .boxed b => b.toDouble
  | _ => failType (.notNumber cell.fullTypeName)

/-! ## Sequences -/

def Cell.length (cell : Cell) : Except Error Nat :=
  match cell.relaxed with
  | .text s => .ok s.length
  | .bytes _ data => .ok data.length
  | .list items | .tuple items => .ok items.length
  | .map entries => .ok entries.length
  | .keyed .caseless entries => .ok entries.length
  | _ => failType (.unsized cell.fullTypeName)

/-- The items one by one: the characters of a text, the bytes of a buffer as numbers, the keys of a map. A
row object has no items by position, unless it is one of SQLite. -/
def Cell.items (cell : Cell) : Except Error (List Cell) :=
  match cell.relaxed with
  | .text s => .ok (s.toList.map fun c => .text (String.singleton c))
  | .bytes _ data => .ok (data.map fun byte => .int byte.toNat)
  | .list items | .tuple items => .ok items
  | .map entries => .ok (entries.map (·.1))
  | .keyed .exact _ => .ok []
  | .keyed .caseless entries => .ok (entries.map (·.2))
  | _ => failType (.notIterable cell.fullTypeName)

/-! ## Bytes -/

/-- The number in a cell that can stand for a byte or a count. -/
def Cell.toByteNumber (cell : Cell) : Except Error Int :=
  match cell with
  | .bool b => .ok (boolNumber b)
  | .int i => .ok i
  | .sqlType t => .ok t.code
  | .boxed (.int _ _ i) => .ok i
  | _ => failType (.notByte cell.fullTypeName)

def Cell.toByte (cell : Cell) : Except Error UInt8 := do
  let i ← cell.toByteNumber
  if 0 ≤ i ∧ i < 256 then return UInt8.ofNat i.toNat else failValue .byteRange

def maxBufferLength : Int := 9223372036854775774

/-- As many zero bytes as the number says, which is given by a value of a type. -/
def zeroBytes (type : String) (count : Int) : Except Error Bytes :=
  if count < -9223372036854775808 ∨ 9223372036854775807 < count then failOverflow (.count type)
  else if count < 0 then failValue .negativeCount
  else if maxBufferLength < count then failOverflow .buffer
  else if memoryLimit ≤ count then .error .memory
  else .ok (List.replicate count.toNat 0)

/-- The bytes of a buffer or a large object, the bytes whose numbers a sequence holds, as many zero bytes
as an integer says, or the bytes that another boxed scalar is stored in. -/
def Cell.toBytes (cell : Cell) : Except Error Bytes :=
  match cell with
  | .bytes _ data | .boxed (.bytes data) => .ok data
  | .blob b => .ok b.data
  | .text _ | .boxed (.text _) => failType .textAsBytes
  | .bool b => zeroBytes cell.fullTypeName (boolNumber b)
  | .int i => zeroBytes cell.fullTypeName i
  | .sqlType t => zeroBytes cell.fullTypeName t.code
  | .boxed (.int _ _ i) => zeroBytes cell.fullTypeName i
  | .boxed b => .ok b.storage
  | .list items | .tuple items => items.mapM Cell.toByte
  | .map entries => (entries.map (·.1)).mapM Cell.toByte
  | .keyed .exact _ => .ok []
  | .keyed .caseless entries => (entries.map (·.2)).mapM Cell.toByte
  | _ => failType (.notBytes cell.fullTypeName)

end TypedRows
