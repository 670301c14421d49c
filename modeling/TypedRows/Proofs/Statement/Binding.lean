import TypedRows.Statement.FieldBinding
import TypedRows.Proofs.Calendar.EpochMillis
import TypedRows.Proofs.Cell.LongInteger
import TypedRows.Proofs.Record.Construction
/-!
# Binding one value

What is bound for a value of a field, stated without the steps by which it is found: `Kind.setter` is the table
of setters, `Setter.stored` the value that a setter stores, and `Field.refusal?` gives the conditions under
which nothing is bound, in the order in which they are checked. `Writable` puts the same conditions side by side.

Main statement: `Statement.bindField_eq`, for every value that the field can hold and every statement.
-/

namespace TypedRows

/-! ## What is bound -/

/-- The setter for the values other than null of a field in a column of a type. -/
def Kind.setter (kind : Kind) (type : SqlType) : Setter :=
  match kind with
  | .string => .string
  | .boolean => .boolean
  | .int32 => if type.isNarrowInteger then .short else .int
  | .int64 =>
    match type with
    | .date => .date
    | .time => .time
    | .timestamp => .timestamp
    | _ => .long
  | .float32 => .float
  | .float64 => .double
  | .bytes => if type = .blob then .blob else .bytes
  | .null | .array | .map | .record | .union => .null

/-- The instant of which a cell is the count of epoch milliseconds. -/
def Cell.instant? (cell : Cell) : Option DateTime :=
  cell.asInt?.bind fun millis => DateTime.ofEpochMicros? (millis * 1000)

/-- What a setter stores of a value of a field: integers as plain integers, floating point in the precision of
the setter, bytes as such or as a large object, and of an instant the date, the time or both. -/
def Setter.stored (setter : Setter) (value : Cell) : Cell :=
  match setter, value with
  | .short, value | .int, value | .long, value => (value.asInt?.map Cell.int).getD value
  | .float, .float x => .float x.narrow
  | .blob, .bytes _ data => .blob ⟨data, false⟩
  | .date, value => (value.instant?.map fun d => Cell.date d.date).getD value
  | .time, value => (value.instant?.map fun d => Cell.time d.time none).getD value
  | .timestamp, value => (value.instant?.map fun d => Cell.datetime d none).getD value
  | _, value => value

/-- The binding of a value of a field in a column of a type. A null carries the type of its column. -/
def Field.binding (f : Field) (type : SqlType) (value : Cell) (position : Nat) : Binding :=
  if value.isNull then ⟨.null, position, ⟨.null, some type⟩⟩
  else ⟨f.kind.setter type, position, ⟨(f.kind.setter type).stored value, none⟩⟩

/-- The cell that is bound for a value of a field. -/
def Field.stored (f : Field) (type : SqlType) (value : Cell) : Cell :=
  if value.isNull then .null else (f.kind.setter type).stored value

theorem Field.binding_value (f : Field) (type : SqlType) (value : Cell) (position : Nat) :
    (f.binding type value position).parameter.value = f.stored type value := by
  unfold Field.binding Field.stored
  split <;> rfl

theorem Field.binding_index (f : Field) (type : SqlType) (value : Cell) (position : Nat) :
    (f.binding type value position).index = position := by
  unfold Field.binding
  split <;> rfl

/-! ## What is refused -/

/-- The range that a value of a field leaves: that of a narrow integer column, or that of the instants. -/
def Kind.rangeFault? (kind : Kind) (type : SqlType) (value : Cell) : Option RangeFault :=
  match kind, value.asInt? with
  | .int32, some i =>
    match type.narrowRange? with
    | some range =>
      if range.1 ≤ i ∧ i ≤ range.2 then none
      else some (.target value (.int range.1) (.int range.2) type.name)
    | none => none
  | .int64, some i =>
    if type.isTemporal = true ∧ ¬(minEpochMillis ≤ i ∧ i ≤ maxEpochMillis) then some (.epochMillis value) else none
  | _, _ => none

/-- Why a value of a field is not bound at a position of a statement with `count` parameters: the kind of the
field comes before the range of the value, and that before the position. -/
def Field.refusal? (f : Field) (type : SqlType) (value : Cell) (count : Int) (position : Nat) : Option Error :=
  if f.kind.isScalar then
    match f.kind.rangeFault? type value with
    | some fault => some (.range fault)
    | none => if position ≤ count then none else some (.position (.parameter position count))
  else some (.mismatch (.notScalar f.name f.kind))

/-- A value of a field that can be bound at a position of a statement with `count` parameters. -/
structure Writable (count : Int) (position : Nat) (f : Field) (type : SqlType) (value : Cell) : Prop where
  scalar : f.kind.isScalar = true
  narrow : f.kind = .int32 → ∀ i range, value.asInt? = some i → type.narrowRange? = some range →
    range.1 ≤ i ∧ i ≤ range.2
  temporal : f.kind = .int64 → ∀ i, value.asInt? = some i → type.isTemporal = true →
    minEpochMillis ≤ i ∧ i ≤ maxEpochMillis
  inside : position ≤ count

theorem Kind.rangeFault?_eq_none_iff {kind : Kind} {type : SqlType} {value : Cell} :
    kind.rangeFault? type value = none ↔
      (kind = .int32 → ∀ i range, value.asInt? = some i → type.narrowRange? = some range →
        range.1 ≤ i ∧ i ≤ range.2) ∧
      (kind = .int64 → ∀ i, value.asInt? = some i → type.isTemporal = true →
        minEpochMillis ≤ i ∧ i ≤ maxEpochMillis) := by
  unfold Kind.rangeFault?
  cases hi : value.asInt? with
  | none => cases kind <;> simp
  | some i =>
    cases kind with
    | int32 =>
      cases type.narrowRange? with
      | none => simp
      | some range => by_cases h : range.1 ≤ i ∧ i ≤ range.2 <;> simp [h]
    | int64 => cases type.isTemporal <;> simp
    | _ => simp

theorem Field.refusal?_eq_none_iff {f : Field} {type : SqlType} {value : Cell} {count : Int} {position : Nat} :
    f.refusal? type value count position = none ↔ Writable count position f type value := by
  constructor
  · intro h
    unfold Field.refusal? at h
    split at h
    · rename_i hscalar
      split at h
      · cases h
      · rename_i hrange
        split at h
        · rename_i hinside
          obtain ⟨hnarrow, htemporal⟩ := Kind.rangeFault?_eq_none_iff.1 hrange
          exact ⟨hscalar, hnarrow, htemporal, hinside⟩
        · cases h
    · cases h
  · rintro ⟨hscalar, hnarrow, htemporal, hinside⟩
    rw [Field.refusal?, if_pos hscalar, Kind.rangeFault?_eq_none_iff.2 ⟨hnarrow, htemporal⟩]
    simp only [hinside, ↓reduceIte]

theorem Writable.rangeFault?_eq_none {f : Field} {type : SqlType} {value : Cell} {count : Int} {position : Nat}
    (h : Writable count position f type value) : f.kind.rangeFault? type value = none :=
  Kind.rangeFault?_eq_none_iff.2 ⟨h.narrow, h.temporal⟩

/-! ## Integers -/

section Integers

variable {value : Cell} {i : Int}

theorem toInteger_of_asInt? (h : value.asInt? = some i) : value.toInteger = .ok i := by
  rcases Cell.asInt?_eq_some_iff.1 h with rfl | ⟨t, rfl, rfl⟩ <;> rfl

theorem checkRange_of_mem {range : Int × Int} (target : String) (h : range.1 ≤ i ∧ i ≤ range.2) :
    checkRange range target i = .ok i := by
  rw [checkRange, if_pos h]

theorem ranged_of_asInt? {range : Int × Int} (target : String) (h : value.asInt? = some i)
    (hmem : range.1 ≤ i ∧ i ≤ range.2) : Setter.ranged range target value = .ok ⟨.int i, none⟩ := by
  simp [Setter.ranged, toInteger_of_asInt? h, checkRange_of_mem target hmem, Setter.plain, bind, Except.bind, pure,
    Except.pure]

/-- An integer, or the number of a type, shows nothing too long if it is small. -/
theorem showsLongInteger_of_asInt? (h : value.asInt? = some i) (hsmall : i.natAbs < 10 ^ 20) :
    value.showsLongInteger = false := by
  rcases Cell.asInt?_eq_some_iff.1 h with rfl | ⟨t, rfl, rfl⟩
  · exact isLongInteger_eq_false hsmall
  · rfl

/-- Between two integers an integer is compared by its value. -/
theorem checkBetween_of_asInt? {lower upper : Int} (target : String) (h : value.asInt? = some i) :
    checkBetween (.int lower) (.int upper) target value =
      if lower ≤ i ∧ i ≤ upper then .ok value
      else RangeFault.refuse (.target value (.int lower) (.int upper) target) := by
  have hle : (Cell.int lower).le value = .ok (decide (lower ≤ i)) ∧
      value.le (.int upper) = .ok (decide (i ≤ upper)) := by
    rcases Cell.asInt?_eq_some_iff.1 h with rfl | ⟨t, rfl, rfl⟩ <;>
      exact ⟨congrArg Except.ok (decide_eq_decide.2 Rat.intCast_le_intCast),
        congrArg Except.ok (decide_eq_decide.2 Rat.intCast_le_intCast)⟩
  rw [checkBetween, hle.1, hle.2]
  by_cases hlower : lower ≤ i <;> by_cases hupper : i ≤ upper <;>
    simp [hlower, hupper, bind, Except.bind, pure, Except.pure]

theorem toMicros_of_asInt? (h : value.asInt? = some i) : value.toMicros = .ok (some (i * 1000)) := by
  rcases Cell.asInt?_eq_some_iff.1 h with rfl | ⟨t, rfl, rfl⟩ <;> rfl

theorem instant?_of_asInt? (h : value.asInt? = some i) : value.instant? = DateTime.ofEpochMicros? (i * 1000) := by
  rw [Cell.instant?, h, Option.bind_some]

theorem ofEpochMillis_of_mem (h : value.asInt? = some i) (hmem : minEpochMillis ≤ i ∧ i ≤ maxEpochMillis) :
    ∃ d, value.instant? = some d ∧ DateTime.ofEpochMillis value = .ok d := by
  obtain ⟨d, hd⟩ := DateTime.exists_ofEpochMicros?_iff.2 hmem
  refine ⟨d, by rw [instant?_of_asInt? h, hd], ?_⟩
  simp [DateTime.ofEpochMillis, toMicros_of_asInt? h, hd, bind, Except.bind, pure, Except.pure]

theorem ofEpochMillis_of_not_mem (h : value.asInt? = some i) (hmem : ¬(minEpochMillis ≤ i ∧ i ≤ maxEpochMillis)) :
    DateTime.ofEpochMillis value = RangeFault.refuse (.epochMillis value) := by
  have hnone := DateTime.ofEpochMicros?_eq_none_iff.2 hmem
  simp [DateTime.ofEpochMillis, toMicros_of_asInt? h, hnone, bind, Except.bind]

theorem natAbs_lt_of_int64 (hmem : Kind.int64Range.1 ≤ i ∧ i ≤ Kind.int64Range.2) : i.natAbs < 10 ^ 20 := by
  simp only [Kind.int64Range] at hmem
  omega

theorem natAbs_lt_of_int32 (hmem : Kind.int32Range.1 ≤ i ∧ i ≤ Kind.int32Range.2) : i.natAbs < 10 ^ 20 := by
  simp only [Kind.int32Range] at hmem
  omega

/-- The range that a small integer leaves is part of the refusal. -/
theorem refuse_of_rangeFault? {α : Type} {kind : Kind} {type : SqlType} {fault : RangeFault}
    (h : value.asInt? = some i) (hsmall : i.natAbs < 10 ^ 20) (hfault : kind.rangeFault? type value = some fault) :
    (fault.refuse : Except Error α) = .error (.range fault) := by
  have hshown := showsLongInteger_of_asInt? h hsmall
  unfold Kind.rangeFault? at hfault
  rw [h] at hfault
  cases kind with
  | int32 =>
    cases hrange : type.narrowRange? with
    | none => simp [hrange] at hfault
    | some range =>
      simp only [hrange, Option.ite_none_left_eq_some, Option.some.injEq] at hfault
      obtain ⟨-, rfl⟩ := hfault
      cases type <;> simp only [SqlType.narrowRange?, Option.some.injEq, reduceCtorEq] at hrange <;> subst hrange <;>
        exact RangeFault.refuse_of_short hshown (isLongInteger_eq_false (by decide)) (isLongInteger_eq_false (by decide))
  | int64 =>
    simp only [Option.ite_none_right_eq_some, Option.some.injEq] at hfault
    obtain ⟨-, rfl⟩ := hfault
    exact RangeFault.refuse_of_short hshown (isLongInteger_eq_false (by decide)) (isLongInteger_eq_false (by decide))
  | _ => cases hfault

end Integers

/-! ## Assignments -/

/-- The setter and the parameter that it stores. -/
def Assignment.parameter (a : Assignment) : Except Error (Setter × Parameter) :=
  (a.setter.convert a.value).map fun p => (a.setter, p)

section Assignments

variable {type : SqlType} {value : Cell} {i : Int}

theorem narrowRange_subset {range : Int × Int} (h : type.narrowRange? = some range)
    (hmem : range.1 ≤ i ∧ i ≤ range.2) : int16Range.1 ≤ i ∧ i ≤ int16Range.2 := by
  cases type <;> simp only [SqlType.narrowRange?, Option.some.injEq, reduceCtorEq] at h <;> subst h <;>
    simp only [int16Range] <;> omega

theorem setter_int64 (htype : type.isTemporal = false) : Kind.setter .int64 type = .long := by
  cases type <;> first | (cases htype; done) | rfl

theorem ofInt64_of_not_temporal (htype : type.isTemporal = false) :
    Assignment.ofInt64 type value = .ok ⟨.long, value⟩ := by
  cases type <;> first | (cases htype; done) | rfl

/-- An integer of a narrow column is checked against the range of the column, any other against 32 bits. -/
theorem int32_parameter (hi : value.asInt? = some i) (hmem : Kind.int32Range.1 ≤ i ∧ i ≤ Kind.int32Range.2) :
    (Assignment.ofInt32 type value >>= Assignment.parameter) =
      match Kind.rangeFault? .int32 type value with
      | some fault => .error (.range fault)
      | none => .ok (Kind.setter .int32 type, ⟨(Kind.setter .int32 type).stored value, none⟩) := by
  cases hr : type.narrowRange? with
  | none =>
    have hint := ranged_of_asInt? "int" hi hmem
    simp [Assignment.ofInt32, hr, Kind.rangeFault?, hi, Kind.setter, SqlType.isNarrowInteger, Setter.stored,
      Assignment.parameter, Setter.convert, hint, bind, Except.bind, Except.map]
  | some range =>
    by_cases hfits : range.1 ≤ i ∧ i ≤ range.2
    · have hshort := ranged_of_asInt? "short" hi (narrowRange_subset hr hfits)
      simp [Assignment.ofInt32, hr, checkBetween_of_asInt? _ hi, hfits, Kind.rangeFault?, hi, Kind.setter,
        SqlType.isNarrowInteger, Setter.stored, Assignment.parameter, Setter.convert, hshort, bind, Except.bind,
        pure, Except.pure, Except.map]
    · have hfault : Kind.rangeFault? .int32 type value =
          some (.target value (.int range.1) (.int range.2) type.name) := by
        simp [Kind.rangeFault?, hi, hr, hfits]
      have hrefuse := refuse_of_rangeFault? (α := Cell) hi (natAbs_lt_of_int32 hmem) hfault
      simp [Assignment.ofInt32, hr, checkBetween_of_asInt? _ hi, hfits, hfault, hrefuse, bind, Except.bind]

/-- An integer of a column of dates, times or instants must count the milliseconds of an instant. -/
theorem int64_parameter (hi : value.asInt? = some i) (hmem : Kind.int64Range.1 ≤ i ∧ i ≤ Kind.int64Range.2) :
    (Assignment.ofInt64 type value >>= Assignment.parameter) =
      match Kind.rangeFault? .int64 type value with
      | some fault => .error (.range fault)
      | none => .ok (Kind.setter .int64 type, ⟨(Kind.setter .int64 type).stored value, none⟩) := by
  cases ht : type.isTemporal with
  | false =>
    have hlong := ranged_of_asInt? "long" hi hmem
    simp [ofInt64_of_not_temporal ht, Kind.rangeFault?, hi, ht, setter_int64 ht, Setter.stored,
      Assignment.parameter, Setter.convert, hlong, bind, Except.bind, Except.map]
  | true =>
    by_cases hfits : minEpochMillis ≤ i ∧ i ≤ maxEpochMillis
    · obtain ⟨d, hd, hread⟩ := ofEpochMillis_of_mem hi hfits
      have hnone : Kind.rangeFault? .int64 type value = none := by simp [Kind.rangeFault?, hi, hfits]
      rw [hnone]
      cases type <;> first | (cases ht; done) |
        simp [Assignment.ofInt64, hread, Kind.setter, Setter.stored, hd, Assignment.parameter, Setter.convert,
          Setter.plain, bind, Except.bind, pure, Except.pure, Except.map]
    · have hsome : Kind.rangeFault? .int64 type value = some (.epochMillis value) := by
        simp [Kind.rangeFault?, hi, ht, hfits]
      have hread := (ofEpochMillis_of_not_mem hi hfits).trans
        (refuse_of_rangeFault? hi (natAbs_lt_of_int64 hmem) hsome)
      rw [hsome]
      cases type <;> first | (cases ht; done) | simp [Assignment.ofInt64, hread, bind, Except.bind]

theorem bytes_parameter (data : Bytes) :
    (Assignment.ofBytes type (.bytes .frozen data) >>= Assignment.parameter) =
      .ok (Kind.setter .bytes type, ⟨(Kind.setter .bytes type).stored (.bytes .frozen data), none⟩) := by
  by_cases h : type = .blob
  · subst h
    rfl
  · have hassign : Assignment.ofBytes type (.bytes .frozen data) = .ok ⟨.bytes, .bytes .frozen data⟩ := by
      cases type <;> first | rfl | exact absurd rfl h
    rw [hassign, Kind.setter, if_neg h]
    rfl

end Assignments

/-- **A canonical value of a kind without parts** leaves its range, or is stored by its setter. -/
theorem Kind.parameter_eq {kind : Kind} {value : Cell} (type : SqlType) (hs : kind.isScalar = true)
    (hcan : kind.isCanonical value = true) :
    (Assignment.ofValue kind type value >>= Assignment.parameter) =
      match kind.rangeFault? type value with
      | some fault => .error (.range fault)
      | none => .ok (kind.setter type, ⟨(kind.setter type).stored value, none⟩) := by
  cases kind with
  | null => cases hcan
  | boolean => obtain ⟨b, rfl⟩ := Kind.isCanonical_boolean.1 hcan; rfl
  | int32 => obtain ⟨i, hi, hmem⟩ := Kind.isCanonical_int32.1 hcan; exact int32_parameter hi hmem
  | int64 => obtain ⟨i, hi, hmem⟩ := Kind.isCanonical_int64.1 hcan; exact int64_parameter hi hmem
  | float32 => obtain ⟨x, rfl⟩ := Kind.isCanonical_float32.1 hcan; rfl
  | float64 => obtain ⟨x, rfl⟩ := Kind.isCanonical_float64.1 hcan; rfl
  | string => obtain ⟨s, rfl⟩ := Kind.isCanonical_string.1 hcan; rfl
  | bytes => obtain ⟨data, rfl⟩ := Kind.isCanonical_bytes.1 hcan; exact bytes_parameter data
  | array | map | record | union => cases hs

/-! ## Binding -/

/-- The statement after bindings, whatever it held before. -/
def Statement.append (s : Statement) (bs : List Binding) : Statement :=
  { s with
    bindings := s.bindings ++ bs
    slots := bs.foldl (fun slots b => slots.set (b.index - 1).toNat (some b.parameter.value)) s.slots }

theorem Statement.append_nil (s : Statement) : s.append [] = s := by
  simp [Statement.append]

theorem Statement.append_cons (s : Statement) (b : Binding) (bs : List Binding) :
    s.append (b :: bs) = (s.append [b]).append bs := by
  simp [Statement.append]

theorem Statement.bind_eq (s : Statement) {b : Binding} (h : 1 ≤ b.index) :
    s.bind b =
      if b.index ≤ s.count then .ok (s.append [b]) else .error (.position (.parameter b.index s.count)) := by
  simp [Statement.bind, Statement.append, h]

/-- To set what is assigned is to bind its parameter. -/
theorem Statement.set_assignment (s : Statement) (position : Int) (assigned : Except Error Assignment) :
    (assigned >>= fun a => s.set a.setter position a.value) =
      (assigned >>= Assignment.parameter) >>= fun p => s.bind ⟨p.1, position, p.2⟩ := by
  cases assigned with
  | error e => rfl
  | ok a =>
    simp only [Statement.set, Assignment.parameter, Bind.bind, Except.bind]
    cases a.setter.convert a.value <;> rfl

/-- **The outcome of binding one value**: the refusal, if there is one, and otherwise the statement with one
binding more. -/
theorem Statement.bindField_eq (s : Statement) {position : Nat} (hpos : 0 < position) {f : Field} {value : Cell}
    (type : SqlType) (hv : f.holds value = true) :
    s.bindField position f type value =
      match f.refusal? type value s.count position with
      | some e => .error e
      | none => .ok (s.append [f.binding type value position]) := by
  have hindex : ∀ setter parameter, s.bind ⟨setter, position, parameter⟩ =
      if position ≤ s.count then .ok (s.append [⟨setter, position, parameter⟩])
      else .error (.position (.parameter position s.count)) :=
    fun setter parameter => s.bind_eq (show 1 ≤ (position : Int) by omega)
  rw [Statement.bindField, Statement.set_assignment]
  cases hs : f.kind.isScalar with
  | false =>
    simp [Field.refusal?, hs, Field.assignment, Field.scalarKind, failMismatch, Bind.bind, Except.bind]
  | true =>
    have hkind : f.scalarKind = .ok f.kind := by rw [Field.scalarKind, if_pos hs]
    cases hnull : value.isNull with
    | true =>
      obtain rfl := Cell.eq_null_of_isNull hnull
      have hrange : f.kind.rangeFault? type .null = none := by simp [Kind.rangeFault?, Cell.asInt?]
      have hparameter : (f.assignment type .null >>= Assignment.parameter) = .ok (.null, ⟨.null, some type⟩) := by
        simp only [Field.assignment, hkind]
        rfl
      rw [hparameter, Field.refusal?, if_pos hs, hrange, Field.binding, if_pos hnull]
      show s.bind _ = _
      rw [hindex]
      split <;> rfl
    | false =>
      have hassign : f.assignment type value = Assignment.ofValue f.kind type value := by
        simp [Field.assignment, hkind, hnull, Bind.bind, Except.bind]
      have hparameter := Kind.parameter_eq type hs (Field.isCanonical_of_holds hv hnull)
      rw [hassign, hparameter, Field.refusal?, if_pos hs, Field.binding, hnull]
      cases f.kind.rangeFault? type value with
      | some fault => rfl
      | none =>
        show s.bind _ = _
        rw [hindex]
        split <;> rfl

end TypedRows
