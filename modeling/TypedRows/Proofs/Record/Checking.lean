import TypedRows.Proofs.Number.Rounding
import TypedRows.Proofs.Record.Construction
import TypedRows.Proofs.Traversal
/-!
# The checks of a record

What a record is to be made of, stated without the steps of the check: `Field.Takes` for one value,
`Field.SatisfiedBy` for a field and a table of values, and `Record.Blamed` for the name that a failure is to
give. `Record.Contract` puts them together: the record is made if every field takes its value, and otherwise the
first name that stands in the way is blamed.

The contract does not hold of every table. A field of floating point takes integers of any size, but not all of
them have a nearest double; and a refusal shows the refused value, but the longest integers cannot be shown. In
these two cases (`Field.Escapes`) the check ends with a failure that blames no field.

Main statement: `Record.ofEntries_contract_iff`, for every schema and every table.
-/

namespace TypedRows

/-! ## One value -/

namespace Field

/-- The field takes the cell: null if it may be null, and otherwise what its kind accepts. -/
def Takes (f : Field) (cell : Cell) : Prop :=
  if cell.unboxed.isNull then f.nullable = true else f.kind.accepts cell.unboxed = true

/-- The cell is an integer without a nearest double, in a field of floating point. -/
def Overflows (f : Field) (cell : Cell) : Prop :=
  (f.kind = .float32 ∨ f.kind = .float64) ∧ ∃ i, cell.unboxed.asInt? = some i ∧ doubleLimit ≤ i.natAbs

end Field

theorem Kind.cases_of_accepts_float {kind : Kind} {cell : Cell} (hkind : kind = .float32 ∨ kind = .float64)
    (hplain : cell.relaxed = cell) (h : kind.accepts cell = true) :
    (∃ x, cell = .float x) ∨ ∃ i, cell.asInt? = some i := by
  unfold accepts at h
  rw [hplain] at h
  rcases hkind with rfl | rfl <;> cases cell <;> simp_all [Cell.asInt?]

theorem Kind.exists_bytes_of_accepts {cell : Cell} (hplain : cell.relaxed = cell)
    (h : Kind.bytes.accepts cell = true) : ∃ form data, cell = .bytes form data := by
  unfold accepts at h
  rw [hplain] at h
  cases cell <;> simp_all

theorem Cell.toDouble_of_asInt? {cell : Cell} {i : Int} (h : cell.asInt? = some i) :
    cell.toDouble = doubleOfInt i := by
  rcases Cell.asInt?_eq_some_iff.1 h with rfl | ⟨t, rfl, rfl⟩ <;> rfl

namespace Field

variable {f : Field} {cell : Cell}

/-- A floating point field takes every integer, those that overflow among them. -/
theorem takes_of_overflows (h : f.Overflows cell) : f.Takes cell := by
  obtain ⟨hkind, i, hi, -⟩ := h
  rw [Takes, if_neg (by simp [Cell.isNull_of_asInt? hi])]
  rcases Cell.asInt?_eq_some_iff.1 hi with hcell | ⟨t, hcell, -⟩ <;> rw [hcell] <;>
    rcases hkind with hkind | hkind <;> rw [hkind] <;> rfl

theorem canonical_of_overflows (h : f.Overflows cell) : f.kind.canonical cell.unboxed = failOverflow .integer := by
  obtain ⟨hkind, i, hi, hlarge⟩ := h
  have hdouble : cell.unboxed.toDouble = failOverflow .integer := by
    rw [Cell.toDouble_of_asInt? hi, doubleOfInt_eq, if_neg (Nat.not_lt.2 hlarge)]
  rcases hkind with hkind | hkind <;> rw [hkind, Kind.canonical, hdouble] <;> rfl

/-- Whatever else is accepted has a canonical form. -/
theorem exists_canonical (haccepts : f.kind.accepts cell.unboxed = true) (hfits : ¬f.Overflows cell) :
    ∃ value, f.kind.canonical cell.unboxed = .ok value := by
  have hplain := cell.relaxed_unboxed
  have hfloat : f.kind = .float32 ∨ f.kind = .float64 → ∃ x, cell.unboxed.toDouble = .ok x := by
    intro hkind
    rcases Kind.cases_of_accepts_float hkind hplain haccepts with ⟨x, hx⟩ | ⟨i, hi⟩
    · exact ⟨x, by rw [hx]; rfl⟩
    · have hsmall : i.natAbs < doubleLimit := Nat.not_le.1 fun hlarge => hfits ⟨hkind, i, hi, hlarge⟩
      exact ⟨_, by rw [Cell.toDouble_of_asInt? hi, doubleOfInt_eq, if_pos hsmall]⟩
  cases hkind : f.kind with
  | float32 =>
    obtain ⟨x, hx⟩ := hfloat (.inl hkind)
    exact ⟨.float x, by rw [Kind.canonical, hx]; rfl⟩
  | float64 =>
    obtain ⟨x, hx⟩ := hfloat (.inr hkind)
    exact ⟨.float x, by rw [Kind.canonical, hx]; rfl⟩
  | bytes =>
    rw [hkind] at haccepts
    obtain ⟨form, data, hcell⟩ := Kind.exists_bytes_of_accepts hplain haccepts
    exact ⟨.bytes .frozen data, by rw [hcell]; rfl⟩
  | _ => exact ⟨cell.unboxed, rfl⟩

theorem check_of_isNull (hnull : cell.unboxed.isNull = true) :
    f.check cell = if f.nullable then .ok .null else .error (.mismatch (.nullValue f.name)) := by
  simp only [check, hnull, ↓reduceIte]

theorem check_of_accepts (hnull : cell.unboxed.isNull = false) (haccepts : f.kind.accepts cell.unboxed = true) :
    f.check cell = f.kind.canonical cell.unboxed := by
  simp only [check, hnull, haccepts, Bool.false_eq_true, ↓reduceIte]

theorem check_of_not_accepts (hnull : cell.unboxed.isNull = false) (haccepts : f.kind.accepts cell.unboxed = false) :
    f.check cell = cell.unboxed.refuse (.mismatch (.invalidValue f.name f.kind cell.unboxed)) := by
  simp only [check, hnull, haccepts, Bool.false_eq_true, ↓reduceIte]

/-- **The four outcomes of a check.** -/
theorem check_cases (f : Field) (cell : Cell) :
    (f.Takes cell ∧ ¬f.Overflows cell ∧ ∃ value, f.check cell = .ok value) ∨
    (f.Overflows cell ∧ f.check cell = failOverflow .integer) ∨
    (¬f.Takes cell ∧ cell.unboxed.showsLongInteger = false ∧
      ∃ m : Mismatch, f.check cell = .error (.mismatch m) ∧ m.field? = some f.name) ∨
    (¬f.Takes cell ∧ cell.unboxed.showsLongInteger = true ∧ f.check cell = failValue .longInteger) := by
  cases hnull : cell.unboxed.isNull with
  | true =>
    have hcell := Cell.eq_null_of_isNull hnull
    have htakes : f.Takes cell ↔ f.nullable = true := by rw [Takes, if_pos hnull]
    have hfits : ¬f.Overflows cell := by
      rintro ⟨-, i, hi, -⟩
      rw [hcell] at hi
      cases hi
    rw [check_of_isNull hnull, htakes]
    cases f.nullable with
    | true => exact .inl ⟨rfl, hfits, .null, rfl⟩
    | false => exact .inr (.inr (.inl ⟨by simp, by rw [hcell]; rfl, .nullValue f.name, rfl, rfl⟩))
  | false =>
    have htakes : f.Takes cell ↔ f.kind.accepts cell.unboxed = true := by rw [Takes, if_neg (by simp [hnull])]
    rw [htakes]
    cases haccepts : f.kind.accepts cell.unboxed with
    | true =>
      rw [check_of_accepts hnull haccepts]
      by_cases hover : f.Overflows cell
      · exact .inr (.inl ⟨hover, canonical_of_overflows hover⟩)
      · exact .inl ⟨rfl, hover, exists_canonical haccepts hover⟩
    | false =>
      rw [check_of_not_accepts hnull haccepts, Cell.refuse]
      cases cell.unboxed.showsLongInteger with
      | true => exact .inr (.inr (.inr ⟨by simp, rfl, rfl⟩))
      | false => exact .inr (.inr (.inl ⟨by simp, rfl, .invalidValue f.name f.kind cell.unboxed, rfl, rfl⟩))

/-! ## One field of a table -/

/-- The check of a field with the value that a table gives it. -/
def checkGiven (given : List (String × Cell)) (f : Field) : Except Error Cell :=
  match Entries.get? given f.name with
  | none => .error (.mismatch (.missingValue f.name))
  | some cell => f.check cell

/-- The table gives the field a value that it takes. -/
def SatisfiedBy (f : Field) (given : List (String × Cell)) : Prop :=
  ∃ cell, Entries.get? given f.name = some cell ∧ f.Takes cell

/-- The check of the field ends with a failure that blames no field. -/
def Escapes (f : Field) (given : List (String × Cell)) : Prop :=
  ∃ cell, Entries.get? given f.name = some cell ∧
    (f.Overflows cell ∨ ¬f.Takes cell ∧ cell.unboxed.showsLongInteger = true)

/-- What a check that fails without blame fails with. -/
def IsUnblamed (e : Error) : Prop := e = .overflow .integer ∨ e = .value .longInteger

theorem checkGiven_cases (given : List (String × Cell)) (f : Field) :
    (f.SatisfiedBy given ∧ ¬f.Escapes given ∧ ∃ value, f.checkGiven given = .ok value) ∨
    (¬f.SatisfiedBy given ∧ ¬f.Escapes given ∧
      ∃ m : Mismatch, f.checkGiven given = .error (.mismatch m) ∧ m.field? = some f.name) ∨
    (f.Escapes given ∧ ∃ e, f.checkGiven given = .error e ∧ IsUnblamed e) := by
  cases hget : Entries.get? given f.name with
  | none =>
    refine .inr (.inl ⟨?_, ?_, .missingValue f.name, by rw [checkGiven, hget], rfl⟩) <;>
      · rintro ⟨cell, hcell, -⟩
        rw [hget] at hcell
        cases hcell
  | some cell =>
    have hcheck : f.checkGiven given = f.check cell := by rw [checkGiven, hget]
    have hsatisfied : f.SatisfiedBy given ↔ f.Takes cell := by simp [SatisfiedBy, hget]
    have hescapes : f.Escapes given ↔ f.Overflows cell ∨ ¬f.Takes cell ∧ cell.unboxed.showsLongInteger = true := by
      simp [Escapes, hget]
    rw [hcheck, hsatisfied, hescapes]
    rcases f.check_cases cell with ⟨htakes, hfits, hvalue⟩ | ⟨hover, he⟩ | ⟨hnot, hshort, hm⟩ | ⟨hnot, hlong, he⟩
    · exact .inl ⟨htakes, by simp [hfits, htakes], hvalue⟩
    · exact .inr (.inr ⟨.inl hover, _, he, .inl rfl⟩)
    · have hfits : ¬f.Overflows cell := fun h => hnot (takes_of_overflows h)
      exact .inr (.inl ⟨hnot, by simp [hshort, hfits], hm⟩)
    · exact .inr (.inr ⟨.inr ⟨hnot, hlong⟩, _, he, .inr rfl⟩)

end Field

/-! ## All fields -/

theorem checkAll_cons (given : List (String × Cell)) (f : Field) (fields : List Field) :
    checkAll given (f :: fields) =
      match f.checkGiven given with
      | .error e => .error e
      | .ok value => (checkAll given fields).map (value :: ·) := by
  rw [checkAll, Field.checkGiven]
  cases Entries.get? given f.name <;> rfl

/-- The check of all fields is a traversal of them. -/
theorem checkAll_eq_mapM (given : List (String × Cell)) (fields : List Field) :
    checkAll given fields = fields.mapM (Field.checkGiven given) := by
  induction fields with
  | nil => rfl
  | cons f fields ih =>
    rw [checkAll_cons, List.mapM_cons, ih]
    cases f.checkGiven given with
    | error e => rfl
    | ok value => cases fields.mapM (Field.checkGiven given) <;> rfl

theorem exists_checkAll {given : List (String × Cell)} {fields : List Field}
    (h : ∀ f ∈ fields, ∃ value, f.checkGiven given = .ok value) : ∃ values, checkAll given fields = .ok values := by
  rw [checkAll_eq_mapM]
  exact exists_mapM_ok_iff.2 h

/-- The first field that fails ends the run. -/
theorem checkAll_of_error {given : List (String × Cell)} {before : List Field} {f : Field} {e : Error}
    (after : List Field) (hbefore : ∀ g ∈ before, ∃ value, g.checkGiven given = .ok value)
    (he : f.checkGiven given = .error e) : checkAll given (before ++ f :: after) = .error e := by
  rw [checkAll_eq_mapM, mapM_error_iff]
  exact ⟨before, f, after, rfl, hbefore, he⟩

/-- A property holds of all items, or there is a first of which it does not. -/
theorem forall_or_first {α : Type} (P : α → Prop) (items : List α) :
    (∀ a ∈ items, P a) ∨ ∃ before a after, items = before ++ a :: after ∧ (∀ b ∈ before, P b) ∧ ¬P a := by
  induction items with
  | nil => exact .inl (by simp)
  | cons a items ih =>
    by_cases ha : P a
    · rcases ih with hall | ⟨before, b, after, rfl, hbefore, hb⟩
      · exact .inl (List.forall_mem_cons.2 ⟨ha, hall⟩)
      · exact .inr ⟨a :: before, b, after, rfl, List.forall_mem_cons.2 ⟨ha, hbefore⟩, hb⟩
    · exact .inr ⟨[], a, items, rfl, by simp, ha⟩

/-! ## The contract of a record -/

namespace Record

/-- Every name of the table is one of the schema. -/
def AllKnown (schema : Schema) (given : List (String × Cell)) : Prop :=
  ∀ name ∈ given.map Prod.fst, schema.has name = true

/-- The name that stands in the way of a record: the first of the table that the schema does not have, or else
that of the first field, in the order of the schema, that does not get a value that it takes. -/
inductive Blamed (schema : Schema) (given : List (String × Cell)) : String → Prop where
  | name (before : List String) (name : String) (after : List String)
    (keys : given.map Prod.fst = before ++ name :: after) (known : ∀ n ∈ before, schema.has n = true)
    (unknown : schema.has name = false) : Blamed schema given name
  | field (known : AllKnown schema given) (before : List Field) (f : Field) (after : List Field)
    (fields : schema.fields = before ++ f :: after) (satisfied : ∀ g ∈ before, g.SatisfiedBy given)
    (refused : ¬f.SatisfiedBy given) : Blamed schema given f.name

/-- What is expected of the outcome of making a record. -/
structure Contract (schema : Schema) (given : List (String × Cell)) (outcome : Except Error Record) : Prop where
  succeeds : (∃ r, outcome = .ok r) ↔ AllKnown schema given ∧ ∀ f ∈ schema.fields, f.SatisfiedBy given
  fails : ∀ e, outcome = .error e →
    ∃ m name, e = .mismatch m ∧ m.field? = some name ∧ Blamed schema given name

/-- The first field of which the check fails does so without blame. -/
def Escapes (schema : Schema) (given : List (String × Cell)) : Prop :=
  AllKnown schema given ∧ ∃ before f after, schema.fields = before ++ f :: after ∧
    (∀ g ∈ before, g.SatisfiedBy given ∧ ¬g.Escapes given) ∧ f.Escapes given

variable {schema : Schema} {given : List (String × Cell)}

theorem ofEntries_of_unknown {first : String} {rest : List String}
    (h : ((given.map Prod.fst).filter fun name => !schema.has name) = first :: rest) :
    Record.ofEntries schema given = .error (.mismatch (.unknownNames first rest schema.name)) := by
  unfold Record.ofEntries
  rw [h]

theorem filter_eq_nil_of_allKnown (h : AllKnown schema given) :
    ((given.map Prod.fst).filter fun name => !schema.has name) = [] := by
  rw [List.filter_eq_nil_iff]
  intro name hname
  simp [h name hname]

theorem ofEntries_of_error {e : Error} (hknown : AllKnown schema given) (h : checkAll given schema.fields = .error e) :
    Record.ofEntries schema given = .error e := by
  unfold Record.ofEntries
  rw [filter_eq_nil_of_allKnown hknown]
  dsimp only
  split
  · rename_i e' he'
    rw [h] at he'
    cases he'
    rfl
  · rename_i values hvalues
    rw [h] at hvalues
    cases hvalues

/-- Fields that get values that they take and that do not escape pass the run. -/
theorem ok_of_satisfied {fields : List Field} (h : ∀ f ∈ fields, f.SatisfiedBy given ∧ ¬f.Escapes given) :
    ∀ f ∈ fields, ∃ value, f.checkGiven given = .ok value := by
  intro f hf
  obtain ⟨hsatisfied, hsafe⟩ := h f hf
  rcases Field.checkGiven_cases given f with ⟨-, -, hvalue⟩ | ⟨hnot, -, -⟩ | ⟨hescapes, -⟩
  · exact hvalue
  · exact absurd hsatisfied hnot
  · exact absurd hescapes hsafe

theorem ofEntries_of_escapes (h : Escapes schema given) :
    ∃ e, Record.ofEntries schema given = .error e ∧ Field.IsUnblamed e := by
  obtain ⟨hknown, before, f, after, hfields, hbefore, hf⟩ := h
  rcases Field.checkGiven_cases given f with ⟨-, hsafe, -⟩ | ⟨-, hsafe, -⟩ | ⟨-, e, he, hunblamed⟩
  · exact absurd hf hsafe
  · exact absurd hf hsafe
  · refine ⟨e, ofEntries_of_error hknown ?_, hunblamed⟩
    rw [hfields]
    exact checkAll_of_error after (ok_of_satisfied hbefore) he

/-- If a name is blamed, no record is expected. -/
theorem Blamed.not_satisfied {name : String} (h : Blamed schema given name) :
    ¬(AllKnown schema given ∧ ∀ f ∈ schema.fields, f.SatisfiedBy given) := by
  rintro ⟨hknown, hall⟩
  cases h with
  | name before name after hkeys _ hunknown =>
    have hname := hknown name (by rw [hkeys]; exact List.mem_append_right _ List.mem_cons_self)
    rw [hunknown] at hname
    cases hname
  | field _ before f after hfields _ hrefused =>
    exact hrefused (hall f (by rw [hfields]; exact List.mem_append_right _ List.mem_cons_self))

/-- A failure that names what is to be blamed meets the contract. -/
theorem contract_of_blamed {m : Mismatch} {name : String} (hfield : m.field? = some name)
    (hblamed : Blamed schema given name) : Contract schema given (.error (.mismatch m)) where
  succeeds := ⟨nofun, fun h => absurd h hblamed.not_satisfied⟩
  fails e he := by
    cases he
    exact ⟨m, name, rfl, hfield, hblamed⟩

theorem contract_of_unknown {before : List String} {name : String} {after : List String}
    (hkeys : given.map Prod.fst = before ++ name :: after) (hbefore : ∀ n ∈ before, schema.has n = true)
    (hunknown : schema.has name = false) : Contract schema given (Record.ofEntries schema given) := by
  have hfilter : ((given.map Prod.fst).filter fun name => !schema.has name) =
      name :: after.filter fun name => !schema.has name := by
    have hskip : (before.filter fun name => !schema.has name) = [] :=
      List.filter_eq_nil_iff.2 fun n hn => by simp [hbefore n hn]
    rw [hkeys, List.filter_append, hskip, List.nil_append, List.filter_cons_of_pos (by simp [hunknown])]
  rw [ofEntries_of_unknown hfilter]
  exact contract_of_blamed rfl (.name before name after hkeys hbefore hunknown)

/-- A table that does not escape meets the contract. -/
theorem contract_of_not_escapes (h : ¬Escapes schema given) :
    Contract schema given (Record.ofEntries schema given) := by
  rcases forall_or_first (fun name => schema.has name = true) (given.map Prod.fst) with
    hknown | ⟨before, name, after, hkeys, hbefore, hname⟩
  · rcases forall_or_first (fun f => f.SatisfiedBy given ∧ ¬f.Escapes given) schema.fields with
      hall | ⟨before, f, after, hfields, hbefore, hf⟩
    · obtain ⟨values, hvalues⟩ := exists_checkAll (ok_of_satisfied hall)
      obtain ⟨r, hr, -⟩ := ofEntries_of_checkAll (filter_eq_nil_of_allKnown hknown) hvalues
      rw [hr]
      exact ⟨⟨fun _ => ⟨hknown, fun f hf => (hall f hf).1⟩, fun _ => ⟨r, rfl⟩⟩, fun _ => nofun⟩
    · -- The first field that does not pass does not escape, so it is refused.
      have hsafe : ¬f.Escapes given := fun hescapes => h ⟨hknown, before, f, after, hfields, hbefore, hescapes⟩
      have hrefused : ¬f.SatisfiedBy given := fun hsatisfied => hf ⟨hsatisfied, hsafe⟩
      rcases Field.checkGiven_cases given f with ⟨hsatisfied, -⟩ | ⟨-, -, m, hm, hfield⟩ | ⟨hescapes, -⟩
      · exact absurd hsatisfied hrefused
      · have hall : checkAll given schema.fields = .error (.mismatch m) := by
          rw [hfields]
          exact checkAll_of_error after (ok_of_satisfied hbefore) hm
        rw [ofEntries_of_error hknown hall]
        exact contract_of_blamed hfield
          (.field hknown before f after hfields (fun g hg => (hbefore g hg).1) hrefused)
      · exact absurd hescapes hsafe
  · exact contract_of_unknown hkeys hbefore (by simpa using hname)

/-- A table that escapes does not. -/
theorem not_contract_of_escapes (h : Escapes schema given) :
    ¬Contract schema given (Record.ofEntries schema given) := by
  intro hcontract
  obtain ⟨e, he, hunblamed⟩ := ofEntries_of_escapes h
  obtain ⟨m, name, rfl, -⟩ := hcontract.fails e he
  rcases hunblamed with hcontra | hcontra <;> cases hcontra

/-- **What comes of a table of values.** The contract is met, unless the first field that does not pass its check
gets an integer without a nearest double, or a refused value that shows an integer with too many digits: then
the check fails with an overflow or for the digits, and blames no field. -/
theorem ofEntries_contract_iff (schema : Schema) (given : List (String × Cell)) :
    (Contract schema given (Record.ofEntries schema given) ↔ ¬Escapes schema given) ∧
      (Escapes schema given → ∃ e, Record.ofEntries schema given = .error e ∧ Field.IsUnblamed e) :=
  ⟨⟨fun hcontract hescapes => not_contract_of_escapes hescapes hcontract, contract_of_not_escapes⟩,
    ofEntries_of_escapes⟩

def sizeSchema : Schema where
  name := "size"
  fields := [⟨"x", .float64, false, by decide, by decide⟩]
  nodup := by decide

/-- A size that every field of floating point takes, but that no double is nearest to. -/
theorem not_contract_of_large_size :
    ¬Contract sizeSchema [("x", .int (10 ^ 309))] (Record.ofEntries sizeSchema [("x", .int (10 ^ 309))]) := by
  have hover : Field.Overflows ⟨"x", .float64, false, by decide, by decide⟩ (.int (10 ^ 309)) :=
    ⟨.inr rfl, _, rfl, by decide +kernel⟩
  refine not_contract_of_escapes ⟨?_, [], _, [], rfl, nofun, .int (10 ^ 309), rfl, .inl hover⟩
  intro name hname
  obtain rfl := List.mem_singleton.1 hname
  rfl

end Record

end TypedRows
