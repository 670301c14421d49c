/-!
# Sets of characters as ranges of code points

A character class is a list of closed ranges, ascending and apart. `inRanges` is the test and
`Ascending` the condition under which a table names no code point twice.
-/

namespace TypedRows.Text

def inRanges (ranges : List (Nat × Nat)) (codePoint : Nat) : Bool :=
  ranges.any fun range => range.1 ≤ codePoint && codePoint ≤ range.2

/-- The ranges are non-empty and in ascending order, with no overlap. -/
def Ascending : List (Nat × Nat) → Bool
  | [] => true
  | [range] => range.1 ≤ range.2
  | range :: next :: rest => range.1 ≤ range.2 && range.2 < next.1 && Ascending (next :: rest)

end TypedRows.Text
