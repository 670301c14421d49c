/-!
# Lists of names

`nameListing` shows the names of columns as the index of a frame: between brackets, on one line if they
fit, else on as many lines as they need. Each line takes as many names as its width allows. Of many names
only the first and the last are shown, with their number.

Main statement: `flatten_fillLines`, spreading values over lines neither loses nor reorders any.
-/

namespace TypedRows.Text

def lineWidth : Nat := 80

/-- The blanks before the values of a line, which stand below those of the first line. -/
def lineIndent : Nat := 7

/-- The longest list that is shown as a whole. -/
def longestListing : Nat := 100

/-- How many values are shown at each end of a longer list. -/
def listingEnd : Nat := 10

/-- A character of a name between single quotes. -/
def nameEscape (c : Char) : List Char :=
  if c = '\t' then ['\\', 't']
  else if c = '\n' then ['\\', 'n']
  else if c = '\r' then ['\\', 'r']
  else if c = '\'' then ['\\', '\'']
  else [c]

/-- A name between single quotes. Only quotes, tabs and line ends are escaped. -/
def listedName (name : String) : String :=
  String.ofList ('\'' :: name.toList.flatMap nameEscape ++ ['\''])

/-- Values spread over lines, where `used` counts the characters of the line that is begun. A comma follows
each value, and if the values close the list, a bracket too follows the last one. -/
def fillLines (closing : Bool) (used : Nat) (line : List String) :
    List String → List (List String)
  | [] => [line]
  | value :: rest =>
    let taken := value.length + if closing && rest.isEmpty then 2 else 1
    if line.isEmpty || used + taken < lineWidth then
      fillLines closing (used + value.length + 2) (line ++ [value]) rest
    else line :: fillLines closing (lineIndent + value.length + 2) [value] rest

theorem flatten_fillLines (closing : Bool) (used : Nat) (line values : List String) :
    (fillLines closing used line values).flatten = line ++ values := by
  induction values generalizing used line with
  | nil => simp [fillLines]
  | cons value rest ih =>
    simp only [fillLines]
    split <;> split <;> simp [ih]

def lineBreak : String := "\n" ++ String.ofList (List.replicate lineIndent ' ')

/-- Values on lines. -/
def linesText (closing : Bool) (values : List String) : String :=
  String.intercalate ("," ++ lineBreak)
    ((fillLines closing lineIndent [] values).map (String.intercalate ", "))

/-- The values of a list on lines, of a long one the first and the last. -/
def listingBody (values : List String) : String :=
  if values.length ≤ longestListing then linesText true values
  else
    linesText false (values.take listingEnd) ++ "," ++ lineBreak ++ "..." ++ lineBreak ++
      linesText true (values.drop (values.length - listingEnd))

/-- Values between brackets, and what parts them from the text that follows. At most two values stay on
one line, whatever their length. -/
def bracketedListing (values : List String) : String :=
  if values.length ≤ 2 then "[" ++ String.intercalate ", " values ++ "], "
  else
    let body := listingBody values
    let fits := body.length + lineIndent + 3 ≤ lineWidth
    "[" ++ body ++ "]," ++ if fits then " " else "\n      "

/-- The names of columns as the index of a frame. -/
def nameListing (names : List String) : String :=
  let count := if names.length ≤ longestListing then "" else ", length=" ++ toString names.length
  "Index(" ++ bracketedListing (names.map listedName) ++ "dtype='str'" ++ count ++ ")"

end TypedRows.Text
