import TypedRows.Text.Printable
/-!
# Quoted text and bytes

`quoted` writes a text the way error messages show it: between single quotes, or between double quotes
if it holds a single quote and no double quote. A backslash, the quote in use and characters that are
not printable are written as escapes. `quotedBytes` does the same for bytes, of which only printable
ASCII is shown as it is.
-/

namespace TypedRows.Text

def quoteFor (cs : List Char) : Char :=
  if cs.contains '\'' && !cs.contains '"' then '"' else '\''

/-- The hexadecimal digits of a number, at least `width` of them. -/
def hexDigits (width n : Nat) : List Char :=
  let digits := Nat.toDigits 16 n
  List.replicate (width - digits.length) '0' ++ digits

/-- The escape of a character by its number: two, four or eight hexadecimal digits. -/
def numberEscape (n : Nat) : List Char :=
  if n < 0x100 then '\\' :: 'x' :: hexDigits 2 n
  else if n < 0x10000 then '\\' :: 'u' :: hexDigits 4 n
  else '\\' :: 'U' :: hexDigits 8 n

/-- The escape of a character that has a letter of its own. -/
def letterEscape? (c : Char) : Option Char :=
  if c = '\\' then some '\\'
  else if c = '\n' then some 'n'
  else if c = '\r' then some 'r'
  else if c = '\t' then some 't'
  else none

/-- A character inside quotes; `shown` tells which characters stand for themselves. -/
def escaped (quote : Char) (shown : Char → Bool) (c : Char) : List Char :=
  if c = quote then ['\\', c]
  else
    match letterEscape? c with
    | some letter => ['\\', letter]
    | none => if shown c then [c] else numberEscape c.toNat

/-- Characters between quotes. -/
def enclose (shown : Char → Bool) (cs : List Char) : List Char :=
  let quote := quoteFor cs
  quote :: cs.flatMap (escaped quote shown) ++ [quote]

def quoted (text : String) : String := String.ofList (enclose isPrintable text.toList)

def isPlainAscii (c : Char) : Bool := 0x20 ≤ c.toNat && c.toNat < 0x7f

/-- The characters whose code points are the bytes. -/
def byteChars (data : List UInt8) : List Char := data.map fun byte => Char.ofNat byte.toNat

def quotedBytes (data : List UInt8) : String :=
  String.ofList ('b' :: enclose isPlainAscii (byteChars data))

/-- The bytes of a buffer that can grow, between quotes, behind the letter `b`. A single quote is escaped
between double quotes too. -/
def quotedGrowable (data : List UInt8) : String :=
  let quote := quoteFor (byteChars data)
  String.ofList
    ('b' :: quote :: (byteChars data).flatMap (escaped '\'' isPlainAscii) ++ [quote])

/-- An optional text: quoted, or the word for no value. -/
def quotedOrNone : Option String → String
  | some text => quoted text
  | none => "None"

end TypedRows.Text
