import TypedRows.Text.CodePointRange
/-!
# Blank characters

`isBlank` holds of the characters that separate words: the Unicode white space characters and the
four information separators U+001C to U+001F. `strip` drops them from both ends of a text.
`isWhiteSpace` leaves the information separators out.
-/

namespace TypedRows.Text

def blankRanges : List (Nat × Nat) :=
  [(0x9, 0xD), (0x1C, 0x20), (0x85, 0x85), (0xA0, 0xA0), (0x1680, 0x1680), (0x2000, 0x200A),
   (0x2028, 0x2029), (0x202F, 0x202F), (0x205F, 0x205F), (0x3000, 0x3000)]

/-- The character is white space or an information separator. -/
def isBlank (c : Char) : Bool := inRanges blankRanges c.toNat

/-- The character is Unicode white space, which the information separators are not. -/
def isWhiteSpace (c : Char) : Bool := isBlank c && !(0x1C ≤ c.toNat && c.toNat ≤ 0x1F)

/-- The characters without those at either end that have a property. -/
def stripWhere (p : Char → Bool) (cs : List Char) : List Char :=
  ((cs.dropWhile p).reverse.dropWhile p).reverse

/-- The characters without the blanks at either end. -/
def strip (cs : List Char) : List Char := stripWhere isBlank cs

theorem blankRanges_ascending : Ascending blankRanges = true := by decide

end TypedRows.Text
