import TypedRows.Cell.LongInteger
import TypedRows.SqlType.TypeName
/-!
# Reading type codes

A type can be given as itself, by its number or by any of its names. `SqlType.coerce` (`coerce`) reads
such a code, and names the column in its refusal.
-/

namespace TypedRows.SqlType

/-- The type that a code means. -/
def ofCell? (code : Cell) : Option SqlType :=
  match code.relaxed with
  | .sqlType t => some t
  | .text name => ofTypeName? name
  | .int i => ofCode? i
  | _ => none

/-- The type that the code of a column means (`coerce`). -/
def coerce (code : Cell) (column : Option String) : Except Error SqlType :=
  match ofCell? code with
  | some t => .ok t
  | none => code.refuse (.unsupported (.typeName code column))

end TypedRows.SqlType
