import TypedRows.Cell.Conversion
/-!
# Override documents

An override document is a JSON text. `Document.ofBytes?` reads one as a cell: objects become maps, of
which a repeated key keeps its first place and its last value, and whole numbers stay integers. The words
`NaN`, `Infinity` and `-Infinity` stand for the numbers that JSON does not have. Bytes that are no
document, among them those that begin with a byte order mark, give nothing.
-/

namespace TypedRows.Document

/-- The characters after the white space at the front. -/
def skipSpace (cs : List Char) : List Char :=
  cs.dropWhile fun c => c == ' ' || c == '\t' || c == '\n' || c == '\r'

def word? : List Char → List Char → Option (List Char)
  | [], cs => some cs
  | _ :: _, [] => none
  | w :: ws, c :: cs => if w = c then word? ws cs else none

def hexValue? (c : Char) : Option Nat :=
  if '0' ≤ c ∧ c ≤ '9' then some (c.toNat - 48)
  else if 'a' ≤ c ∧ c ≤ 'f' then some (c.toNat - 87)
  else if 'A' ≤ c ∧ c ≤ 'F' then some (c.toNat - 55)
  else none

/-- The number that four hexadecimal digits write, and the rest. -/
def unit? : List Char → Option (Nat × List Char)
  | a :: b :: c :: d :: rest => do
    let unit := ((← hexValue? a) * 16 + (← hexValue? b)) * 256 + (← hexValue? c) * 16 + (← hexValue? d)
    some (unit, rest)
  | _ => none

/-- The unit is the first half of a pair. -/
def isHighHalf (unit : Nat) : Bool := 0xD800 ≤ unit && unit < 0xDC00

/-- The unit is the second half of a pair. -/
def isLowHalf (unit : Nat) : Bool := 0xDC00 ≤ unit && unit < 0xE000

/-- The character of a unit; half a pair is no character and gives the replacement character. -/
def unitChar (unit : Nat) : Char :=
  if isHighHalf unit || isLowHalf unit then '\ufffd' else Char.ofNat unit

/-- The character that an escape with hexadecimal digits writes, and the rest. Two escapes can be the
halves of a pair that write one character. -/
def codeEscape? (cs : List Char) : Option (Char × List Char) := do
  let (unit, rest) ← unit? cs
  match isHighHalf unit, rest with
  | true, '\\' :: 'u' :: more =>
    match unit? more with
    | some (low, more) =>
      if isLowHalf low then
        some (Char.ofNat (0x10000 + (unit - 0xD800) * 0x400 + (low - 0xDC00)), more)
      else some (unitChar unit, rest)
    | none => some (unitChar unit, rest)
  | _, _ => some (unitChar unit, rest)

/-- The character that an escaped letter writes. -/
def letterEscape? : Char → Option Char
  | '"' => some '"'
  | '\\' => some '\\'
  | '/' => some '/'
  | 'b' => some '\x08'
  | 'f' => some '\x0c'
  | 'n' => some '\n'
  | 'r' => some '\r'
  | 't' => some '\t'
  | _ => none

/-- The characters of a string after its opening quote, and the rest. -/
def stringChars? : Nat → List Char → Option (List Char × List Char)
  | 0, _ => none
  | _ + 1, [] => none
  | _ + 1, '"' :: rest => some ([], rest)
  | fuel + 1, '\\' :: 'u' :: rest => do
    let (c, rest) ← codeEscape? rest
    let (cs, rest) ← stringChars? fuel rest
    some (c :: cs, rest)
  | fuel + 1, '\\' :: letter :: rest => do
    let c ← letterEscape? letter
    let (cs, rest) ← stringChars? fuel rest
    some (c :: cs, rest)
  | fuel + 1, c :: rest =>
    if c.toNat < 0x20 ∨ c = '\\' then none
    else do
      let (cs, rest) ← stringChars? fuel rest
      some (c :: cs, rest)

def string? (cs : List Char) : Option (String × List Char) :=
  (stringChars? (cs.length + 1) cs).map fun answer => (String.ofList answer.1, answer.2)

/-! ## Numbers -/

/-- The digits of a whole number, which has no zero at the front of other digits, and the rest. -/
def wholeDigits? (cs : List Char) : Option (List Char × List Char) :=
  match cs with
  | '0' :: rest => some (['0'], rest)
  | c :: _ => if c.isDigit then some (cs.takeWhile Char.isDigit, cs.dropWhile Char.isDigit) else none
  | [] => none

/-- The digits of a fraction with its point, if there is one, and the rest. -/
def fractionDigits (cs : List Char) : List Char × List Char :=
  match cs with
  | '.' :: c :: rest =>
    if c.isDigit then
      ('.' :: (c :: rest).takeWhile Char.isDigit, (c :: rest).dropWhile Char.isDigit)
    else ([], cs)
  | _ => ([], cs)

/-- The sign of an exponent, if there is one, and the rest. -/
def exponentSign (cs : List Char) : List Char × List Char :=
  match cs with
  | '+' :: rest => (['+'], rest)
  | '-' :: rest => (['-'], rest)
  | _ => ([], cs)

/-- An exponent with its letter, if there is one, and the rest. -/
def exponentDigits (cs : List Char) : List Char × List Char :=
  match cs with
  | e :: rest =>
    if e = 'e' ∨ e = 'E' then
      let (sign, rest) := exponentSign rest
      let digits := rest.takeWhile Char.isDigit
      if digits.isEmpty then ([], cs) else ('e' :: sign ++ digits, rest.dropWhile Char.isDigit)
    else ([], cs)
  | [] => ([], cs)

def number? (cs : List Char) : Option (Cell × List Char) := do
  let (sign, rest) := match cs with
    | '-' :: rest => (['-'], rest)
    | rest => ([], rest)
  let (whole, rest) ← wholeDigits? rest
  let (fraction, rest) := fractionDigits rest
  let (exponent, rest) := exponentDigits rest
  if fraction.isEmpty && exponent.isEmpty then
    if maxIntegerDigits < whole.length then none
    else
      let digits ← Numeral.integer? (String.ofList (sign ++ whole))
      some (.int digits.value, rest)
  else
    let x ← Numeral.double? (String.ofList (sign ++ whole ++ fraction ++ exponent))
    some (.float x, rest)

def wordValues : List (String × Cell) :=
  [("null", .null), ("true", .bool true), ("false", .bool false), ("NaN", .float .nan),
   ("Infinity", .float (.infinite false)), ("-Infinity", .float (.infinite true))]

def wordValue? (cs : List Char) : Option (Cell × List Char) :=
  wordValues.findSome? fun entry => (word? entry.1.toList cs).map fun rest => (entry.2, rest)

/-! ## Values -/

mutual

def value? : Nat → List Char → Option (Cell × List Char)
  | 0, _ => none
  | fuel + 1, cs =>
    match cs with
    | '"' :: rest => (string? rest).map fun answer => (.text answer.1, answer.2)
    | '[' :: rest =>
      match skipSpace rest with
      | ']' :: rest => some (.list [], rest)
      | rest => (items? fuel rest).map fun answer => (.list answer.1, answer.2)
    | '\x7b' :: rest =>
      match skipSpace rest with
      | '\x7d' :: rest => some (.map [], rest)
      | rest => (members? fuel rest).map fun answer => (Cell.ofEntries answer.1, answer.2)
    | cs => (wordValue? cs).orElse fun _ => number? cs

/-- The items of a list up to its closing bracket, and the rest. -/
def items? : Nat → List Char → Option (List Cell × List Char)
  | 0, _ => none
  | fuel + 1, cs => do
    let (item, rest) ← value? fuel cs
    match skipSpace rest with
    | ',' :: rest =>
      let (items, rest) ← items? fuel (skipSpace rest)
      some (item :: items, rest)
    | ']' :: rest => some ([item], rest)
    | _ => none

/-- The members of an object up to its closing brace, and the rest. -/
def members? : Nat → List Char → Option (List (Cell × Cell) × List Char)
  | 0, _ => none
  | fuel + 1, cs =>
    match cs with
    | '"' :: rest => do
      let (name, rest) ← string? rest
      match skipSpace rest with
      | ':' :: rest =>
        let (value, rest) ← value? fuel (skipSpace rest)
        match skipSpace rest with
        | ',' :: rest =>
          let (members, rest) ← members? fuel (skipSpace rest)
          some ((.text name, value) :: members, rest)
        | '\x7d' :: rest => some ([(.text name, value)], rest)
        | _ => none
      | _ => none
    | _ => none

end

/-- The value that a document holds. -/
def ofText? (text : String) : Option Cell :=
  let cs := skipSpace text.toList
  match value? (cs.length + 1) cs with
  | some (value, rest) => if (skipSpace rest).isEmpty then some value else none
  | none => none

/-- The value that a document holds, given by its bytes. -/
def ofBytes? (data : Bytes) : Option Cell :=
  (String.fromUTF8? ⟨data.toArray⟩).bind ofText?

end TypedRows.Document
