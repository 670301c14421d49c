/-!
# Lines of text

A line ends at a carriage return with a line feed, at a lone carriage return or at a lone line feed.
`joinLines` (`join_lines`) puts a single line feed between the lines of a text; a line end that closes the text is
dropped.
-/

namespace TypedRows.Text

/-- The pieces of a text between its line ends. -/
def pieces : List Char → List (List Char)
  | [] => [[]]
  | '\r' :: '\n' :: rest => [] :: pieces rest
  | '\r' :: rest => [] :: pieces rest
  | '\n' :: rest => [] :: pieces rest
  | c :: rest => (pieces rest).modifyHead (c :: ·)

/-- Pieces without an empty one at the end. -/
def dropLastEmpty (pieces : List (List Char)) : List (List Char) :=
  if pieces.getLast? = some [] then pieces.dropLast else pieces

/-- The lines of a text. A line end at the end of the text opens no further line. -/
def lines (cs : List Char) : List (List Char) := dropLastEmpty (pieces cs)

/-- The lines of a text with single line feeds between them (`join_lines`). -/
def joinLines (text : String) : String :=
  String.ofList (['\n'].intercalate (lines text.toList))

example : joinLines "a\r\nb\rc\n" = "a\nb\nc" := by decide

end TypedRows.Text
