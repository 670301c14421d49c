import TypedRows.Calendar.Time
import TypedRows.Number.Shortest
/-!
# Dates and times as text

The extended format of ISO 8601: `2021-01-02`, `03:04:05.000006`, and `+01:00` for an offset. A
fraction is written with six digits, and only if it is not zero.
-/

namespace TypedRows

def Date.isoText (d : Date) : String :=
  padded 4 d.year ++ "-" ++ padded 2 d.month ++ "-" ++ padded 2 d.day

/-- An offset in seconds as text; no offset is no text. Seconds are written only if there are any. -/
def offsetText : Option Int → String
  | none => ""
  | some offset =>
    let seconds := offset.natAbs
    (if offset < 0 then "-" else "+") ++ padded 2 (seconds / 3600) ++ ":" ++
      padded 2 (seconds / 60 % 60) ++
      (if seconds % 60 = 0 then "" else ":" ++ padded 2 (seconds % 60))

def TimeOfDay.isoText (t : TimeOfDay) (offset : Option Int) : String :=
  padded 2 t.hour ++ ":" ++ padded 2 t.minute ++ ":" ++ padded 2 t.second ++
    (if t.micro = 0 then "" else "." ++ padded 6 t.micro) ++ offsetText offset

/-- A date and a time as text, with a separator between them. -/
def DateTime.isoText (d : DateTime) (separator : String) (offset : Option Int) : String :=
  d.date.isoText ++ separator ++ d.time.isoText offset

end TypedRows
