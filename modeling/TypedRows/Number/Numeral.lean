import TypedRows.Number.Decimal
/-!
# Numbers written as text

`integer?` and `double?` read a number from text as it stands in user data: white space around it is
ignored, digits of any script count, and a single underscore may stand between two digits.
-/

namespace TypedRows.Numeral

/-- The digits that follow a digit, each perhaps behind one underscore, and the rest. -/
def spanFollowing : List Char → List Nat × List Char
  | [] => ([], [])
  | '_' :: c :: rest =>
    match Text.digitValue? c with
    | some d => (d :: (spanFollowing rest).1, (spanFollowing rest).2)
    | none => ([], '_' :: c :: rest)
  | c :: rest =>
    match Text.digitValue? c with
    | some d => (d :: (spanFollowing rest).1, (spanFollowing rest).2)
    | none => ([], c :: rest)

/-- Digits with single underscores between them, and the rest. -/
def spanGroups : List Char → List Nat × List Char
  | [] => ([], [])
  | c :: rest =>
    match Text.digitValue? c with
    | some d => (d :: (spanFollowing rest).1, (spanFollowing rest).2)
    | none => ([], c :: rest)

/-- An integer given by its sign and its digits. -/
structure Digits where
  negative : Bool
  digits : List Nat
deriving DecidableEq, Repr

def Digits.value (d : Digits) : Int :=
  if d.negative then -(Decimal.ofDigits d.digits : Int) else Decimal.ofDigits d.digits

/-- The characters of a text without the white space around them. -/
def trimmed (text : String) : List Char := Text.stripWhere Text.isWhiteSpace text.toList

/-- The sign and the digits that a text begins with, and what follows them. -/
def spanInteger (text : String) : Digits × List Char :=
  let (negative, cs) := Decimal.spanSign (trimmed text)
  let (digits, rest) := spanGroups cs
  (⟨negative, digits⟩, rest)

/-- The sign and the digits of an integer written as text. -/
def integer? (text : String) : Option Digits :=
  match spanInteger text with
  | (digits, rest) => if digits.digits.isEmpty || !rest.isEmpty then none else some digits

/-- The exponent part of a number, which may be missing. -/
def exponent? : List Char → Option Int
  | [] => some 0
  | c :: rest =>
    if c = 'e' ∨ c = 'E' then
      let (negative, rest) := Decimal.spanSign rest
      match spanGroups rest with
      | ([], _) => none
      | (digits, []) =>
        some (if negative then -(Decimal.ofDigits digits : Int) else Decimal.ofDigits digits)
      | _ => none
    else none

/-- The double nearest to the number that a text writes, or one of the words for the infinities and
the undefined number. -/
def double? (text : String) : Option Double :=
  let (negative, cs) := Decimal.spanSign (trimmed text)
  match cs.map Char.toLower with
  | ['i', 'n', 'f'] | ['i', 'n', 'f', 'i', 'n', 'i', 't', 'y'] => some (.infinite negative)
  | ['n', 'a', 'n'] => some .nan
  | _ =>
    let (whole, rest) := spanGroups cs
    let (fraction, rest) := match rest with
      | '.' :: rest => spanGroups rest
      | rest => ([], rest)
    if whole.isEmpty && fraction.isEmpty then none
    else (exponent? rest).map fun exponent =>
      Decimal.scaledDouble negative (Decimal.ofDigits (whole ++ fraction))
        (exponent - fraction.length)

end TypedRows.Numeral
