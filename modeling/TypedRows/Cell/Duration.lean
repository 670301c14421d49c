import TypedRows.Cell.Conversion
/-!
# Lengths of time

A length of time is given as a count of milliseconds, which need not be whole, and kept in whole
microseconds. The fraction of the count is multiplied as a double and then rounded, half to even.
-/

namespace TypedRows

/-- The integer nearest to a rational number, the even one of two equally near. -/
def roundRat (q : Rat) : Int :=
  let size : Int := halfEven q.num.natAbs q.den
  if q < 0 then -size else size

/-- The microseconds of a count of milliseconds; nothing if the count is infinite. -/
def microsOfDouble (millis : Double) : Except Error (Option Int) :=
  match millis with
  | .nan => failValue .undefinedInteger
  | millis =>
    match millis.toRat? with
    | none => .ok none
    | some q =>
      let whole := truncateRat q
      let rest : Double := .ofRat ((q - whole) * 1000)
      .ok (some (whole * 1000 + (rest.toRat?.map roundRat).getD 0))

/-- The microseconds of a count of milliseconds; nothing if the count is infinite. Only integers and doubles
can be such a count. -/
def Cell.toMicros (millis : Cell) : Except Error (Option Int) :=
  match millis with
  | .bool b => .ok (some (boolNumber b * 1000))
  | .int i => .ok (some (i * 1000))
  | .sqlType t => .ok (some (t.code * 1000))
  | .float x | .boxed (.float .double x) => microsOfDouble x
  | _ => failType (.notDuration millis.fullTypeName)

end TypedRows
