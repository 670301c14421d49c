import TypedRows.Proofs.Frame.Storing
import TypedRows.Proofs.Record.Equality
/-!
# Records that went through a frame

A frame of records is taken apart by columns and put together by rows. Each cell comes back as its column gives it
(`Frame.restored`), so the records come back one by one, in order, unless an integer overflows its column. They are
the same records if and only if no integer of eight bytes beside a null is too long for a double.

Main statement: `Frame.roundTrip_alike_iff`.
-/

namespace TypedRows

/-- The columns with different names are found by their names. -/
theorem find?_of_nodup_names {fields : List Field} (hnodup : (fields.map Field.name).Nodup) {f : Field}
    (h : f ∈ fields) : fields.find? (fun g => g.name == f.name) = some f := by
  induction fields with
  | nil => cases h
  | cons g fields ih =>
    rw [List.map_cons, List.nodup_cons] at hnodup
    rcases List.mem_cons.1 h with rfl | hmem
    · simp
    · have hne : (g.name == f.name) = false := by
        rw [beq_eq_false_iff_ne]
        exact fun heq => hnodup.1 (heq ▸ List.mem_map_of_mem hmem)
      rw [List.find?_cons, hne]
      exact ih hnodup.2 hmem

namespace Frame

/-- The records that a frame of records gives back. -/
def roundTrip (schema : Schema) (records : List Record) : Except Error (List Record) := do
  (← ofRecords schema records).toRecords schema

/-- The record that a row of a frame gives back. -/
def ofRow (schema : Schema) (row : List (Option Cell)) : Except Error Record := do
  Record.ofEntries schema (schema.names.zip (← row.mapM valueOf))

def valuesOf (records : List Record) (f : Field) : List Cell := records.map fun r => r.value f

def hasNull (records : List Record) (f : Field) : Bool := (valuesOf records f).any Cell.isNull

/-! ## Rows and columns -/

/-- The rows of columns that go over the same items are the items one by one. -/
theorem rows_map {α : Type} {fields : List Field} (hfields : fields ≠ []) (items : List α)
    (cell : Field → α → Option Cell) :
    rows (fields.map fun f => items.map (cell f)) = items.map fun a => fields.map fun f => cell f a := by
  have hrows : rows (fields.map fun f => items.map (cell f)) = (List.range items.length).map fun i =>
      (fields.map fun f => items.map (cell f)).map fun cells => cells[i]?.join := by
    cases fields with
    | nil => exact absurd rfl hfields
    | cons f fields => simp [rows]
  rw [hrows]
  refine List.ext_getElem (by simp) fun i hi hi' => ?_
  have hitem : i < items.length := by simpa using hi
  rw [List.getElem_map, List.getElem_map, List.getElem_range, List.map_map]
  refine List.map_congr_left fun f hf => ?_
  simp [hitem]

variable {schema : Schema} {records : List Record}

/-- The frame with a column for each field of a schema. -/
def withColumns (schema : Schema) (cells : Field → List (Option Cell)) : Frame :=
  ⟨schema.fields.map fun f => ⟨f.name, cells f⟩⟩

theorem column?_of_mem {cells : Field → List (Option Cell)} {f : Field} (h : f ∈ schema.fields) :
    (withColumns schema cells).column? f.name = some ⟨f.name, cells f⟩ := by
  have hfind := find?_of_nodup_names schema.nodup h
  rw [column?, withColumns, List.find?_map]
  simp only [Function.comp_def, hfind, Option.map_some]

/-- A frame with a column for each field gives all of them, in order. -/
theorem select_eq (cells : Field → List (Option Cell)) :
    (withColumns schema cells).select schema = .ok (schema.fields.map fun f => ⟨f.name, cells f⟩) := by
  have hnone : (schema.names.filter fun name => ((withColumns schema cells).column? name).isNone) = [] := by
    rw [List.filter_eq_nil_iff, Schema.names, List.forall_mem_map]
    intro f hf
    simp [column?_of_mem hf]
  have hfound : ∀ f ∈ schema.fields, ((withColumns schema cells).column? ∘ Field.name) f =
      some ⟨f.name, cells f⟩ := fun f hf => column?_of_mem hf
  rw [select, hnone, Schema.names, List.filterMap_map, List.filterMap_congr hfound, List.filterMap_eq_map']

/-! ## Records -/

/-- A value that a column kept is taken out of it. -/
theorem valueOf_kept {kind : Kind} {hasNull : Bool} {cell : Cell} (hcell : cell = .null ∨ kind.Plain cell)
    (hkeeps : kind.KeepsNumber cell) : valueOf (kept kind hasNull cell) = .ok (restored kind hasNull cell) := by
  rcases hcell with rfl | hplain
  · cases kind <;> rfl
  · cases hplain with
    | boolean b => rfl
    | int32 i hi hrange =>
      rw [kept, Cell.isNull_of_asInt? hi, restored_of_asInt? rfl hi]
      rfl
    | int64 i hi hrange =>
      rw [kept, Cell.isNull_of_asInt? hi, restored_of_asInt? rfl hi]
      rfl
    | float32 x =>
      cases x with
      | nan => cases (hkeeps _ rfl).1
      | number negative magnitude => rfl
    | float64 x =>
      cases x with
      | nan => cases (hkeeps _ rfl).1
      | number negative magnitude => rfl
    | string s => rfl
    | bytes data => rfl

/-- Integers of four bytes are kept by doubles. -/
theorem throughDouble_of_int32 {i : Int} (h : Kind.int32Range.1 ≤ i ∧ i ≤ Kind.int32Range.2) : throughDouble i = i := by
  refine (throughDouble_eq_iff (natAbs_lt_doubleLimit (inRange_int64_of_int32 h))).2 (fitsDouble_of_lt ?_)
  simp only [Kind.int32Range] at h
  omega

/-- What a field can hold is restored as something that it can hold, unless it overflows. -/
theorem holds_restored {f : Field} {cells : List Cell} {cell : Cell} (hscalar : f.kind.isScalar = true)
    (hcell : f.holds cell = true) (hmem : cell ∈ cells) (h : ¬f.kind.Overflows cells) :
    f.holds (restored f.kind (cells.any Cell.isNull) cell) = true := by
  cases hi : cell.asInt? with
  | none => rwa [restored_of_not_integer (.inr hi)]
  | some i =>
    have hplain := Kind.plain_of_isCanonical hscalar (Field.isCanonical_of_holds hcell (Cell.isNull_of_asInt? hi))
    rcases hplain.cases_of_asInt? hi with ⟨hkind, hrange⟩ | ⟨hkind, hrange⟩
    · rw [restored_of_asInt? (by rw [hkind]; rfl) hi, throughDouble_of_int32 hrange, ite_self]
      exact Field.holds_of_isCanonical rfl (hkind ▸ Kind.isCanonical_int32.2 ⟨i, rfl, hrange⟩)
    · rw [restored_of_asInt? (by rw [hkind]; rfl) hi]
      refine Field.holds_of_isCanonical rfl (hkind ▸ Kind.isCanonical_int64.2 ⟨_, rfl, ?_⟩)
      rw [← inRange_iff]
      cases hnull : cells.any Cell.isNull with
      | true =>
        by_contra hout
        exact h ⟨by rw [hkind]; rfl, hnull, cell, hmem, i, hi, by simpa using hout⟩
      | false => exact inRange_iff.2 hrange

/-- What a column gives back of a cell is alike the cell, unless the cell is an integer of eight bytes that is too
long for a double and beside a null. -/
theorem alike_restored_iff {kind : Kind} {hasNull : Bool} {cell : Cell} (hcell : cell = .null ∨ kind.Plain cell)
    (hkeeps : kind.KeepsNumber cell) :
    cell.alike (restored kind hasNull cell) = .ok true ↔
      (kind = .int64 → hasNull = true → ∀ i, cell.asInt? = some i → FitsDouble i) := by
  rcases hcell with rfl | hplain
  · rw [restored_of_not_integer (.inr rfl)]
    exact ⟨fun _ _ _ i hi => (nomatch hi), fun _ => Cell.alike_null⟩
  · cases hi : cell.asInt? with
    | none =>
      rw [restored_of_not_integer (.inr hi)]
      exact ⟨fun _ _ _ i h => (nomatch h), fun _ => Cell.alike_self hplain fun x hx => (hkeeps x hx).1⟩
    | some i =>
      rcases hplain.cases_of_asInt? hi with ⟨rfl, hrange⟩ | ⟨rfl, hrange⟩
      · rw [restored_of_asInt? rfl hi, throughDouble_of_int32 hrange, ite_self, Cell.alike_of_asInt? hi rfl]
        simp
      · have hlimit := natAbs_lt_doubleLimit (inRange_iff.2 hrange)
        rw [restored_of_asInt? rfl hi, Cell.alike_of_asInt? hi rfl]
        cases hasNull with
        | true => simp [← throughDouble_eq_iff hlimit, eq_comm]
        | false => simp

section

variable (hscalar : ∀ f ∈ schema.fields, f.kind.isScalar = true) (hrecords : ∀ r ∈ records, r.schema = schema)
  (hkeeps : ∀ r ∈ records, ∀ f ∈ schema.fields, f.kind.KeepsNumber (r.value f))

include hrecords

theorem holds_value {r : Record} (hr : r ∈ records) {f : Field} (hf : f ∈ schema.fields) :
    f.holds (r.value f) = true :=
  Record.holds_value (hrecords r hr ▸ hf)

theorem columnOf_eq {f : Field} (hf : f ∈ schema.fields) :
    columnOf records f = (storeCells f.kind (valuesOf records f)).map fun cells => ⟨f.name, cells⟩ := by
  have hcells : records.mapM (fun r => r.get f.name) = .ok (valuesOf records f) := by
    rw [mapM_ok_iff, valuesOf, List.map_map]
    exact List.map_congr_left fun r hr => Record.get_eq (hrecords r hr ▸ hf)
  rw [columnOf, hcells]
  simp only [bind, Except.bind]
  cases storeCells f.kind (valuesOf records f) <;> rfl

include hscalar

theorem null_or_plain {f : Field} (hf : f ∈ schema.fields) :
    ∀ cell ∈ valuesOf records f, cell = .null ∨ f.kind.Plain cell := by
  rw [valuesOf, List.forall_mem_map]
  intro r hr
  cases hnull : (r.value f).isNull with
  | true => exact .inl (Cell.eq_null_of_isNull hnull)
  | false =>
    exact .inr (Kind.plain_of_isCanonical (hscalar f hf)
      (Field.isCanonical_of_holds (holds_value hrecords hr hf) hnull))

/-- A column of which every integer beside a null fits a double does not overflow. -/
theorem not_overflows_of_fits {f : Field} (hf : f ∈ schema.fields)
    (h : f.kind = .int64 → hasNull records f = true → ∀ r ∈ records, ∀ i, (r.value f).asInt? = some i → FitsDouble i) :
    ¬f.kind.Overflows (valuesOf records f) := by
  rintro ⟨-, hnull, cell, hcell, i, hi, hout⟩
  obtain ⟨r, hr, rfl⟩ := List.mem_map.1 hcell
  have hplain := Kind.plain_of_isCanonical (hscalar f hf)
    (Field.isCanonical_of_holds (holds_value hrecords hr hf) (Cell.isNull_of_asInt? hi))
  obtain ⟨hkept, hrange⟩ : throughDouble i = i ∧ inRange Kind.int64Range i = true := by
    rcases hplain.cases_of_asInt? hi with ⟨-, hrange⟩ | ⟨hkind, hrange⟩
    · exact ⟨throughDouble_of_int32 hrange, inRange_int64_of_int32 hrange⟩
    · have hlimit := natAbs_lt_doubleLimit (inRange_iff.2 hrange)
      exact ⟨(throughDouble_eq_iff hlimit).2 (h hkind hnull r hr i hi), inRange_iff.2 hrange⟩
  rw [hkept, hrange] at hout
  cases hout

include hkeeps

theorem columnOf_of_not_overflows {f : Field} (hf : f ∈ schema.fields) (h : ¬f.kind.Overflows (valuesOf records f)) :
    columnOf records f = .ok ⟨f.name, (valuesOf records f).map (kept f.kind (hasNull records f))⟩ := by
  have hstored := storeCells_of_not_overflows (hscalar f hf) (null_or_plain hscalar hrecords hf)
    (List.forall_mem_map.2 fun r hr => hkeeps r hr f hf) h
  rw [columnOf_eq hrecords hf, hstored]
  rfl

/-- A field that overflows makes a frame impossible. -/
theorem roundTrip_of_overflows (h : ∃ f ∈ schema.fields, f.kind.Overflows (valuesOf records f)) :
    roundTrip schema records = failType .lossyInteger := by
  have hlost : ∀ f ∈ schema.fields, f.kind.Overflows (valuesOf records f) →
      columnOf records f = failType .lossyInteger := by
    intro f hf hover
    rw [columnOf_eq hrecords hf, storeCells_of_overflows (null_or_plain hscalar hrecords hf) hover]
    rfl
  have hcolumns : schema.fields.mapM (columnOf records) = failType .lossyInteger := by
    refine mapM_eq_error (fun f hf e hfail => ?_) (h.imp fun f hf => ⟨hf.1, hlost f hf.1 hf.2⟩)
    by_cases hover : f.kind.Overflows (valuesOf records f)
    · rw [hlost f hf hover] at hfail
      cases hfail
      rfl
    · rw [columnOf_of_not_overflows hscalar hrecords hkeeps hf hover] at hfail
      cases hfail
  rw [roundTrip, ofRecords, hcolumns]
  rfl

theorem ofRecords_eq (h : ∀ f ∈ schema.fields, ¬f.kind.Overflows (valuesOf records f)) :
    ofRecords schema records =
      .ok (withColumns schema fun f => (valuesOf records f).map (kept f.kind (hasNull records f))) := by
  have hcolumns : schema.fields.mapM (columnOf records) = .ok (schema.fields.map fun f =>
      ⟨f.name, (valuesOf records f).map (kept f.kind (hasNull records f))⟩) := by
    rw [mapM_ok_iff, List.map_map]
    exact List.map_congr_left fun f hf => columnOf_of_not_overflows hscalar hrecords hkeeps hf (h f hf)
  rw [ofRecords, hcolumns]
  rfl

/-- The row that was kept of a record is a record again. -/
theorem exists_ofRow (h : ∀ f ∈ schema.fields, ¬f.kind.Overflows (valuesOf records f)) {r : Record}
    (hr : r ∈ records) :
    ∃ r', ofRow schema (schema.fields.map fun f => kept f.kind (hasNull records f) (r.value f)) = .ok r' ∧
      r'.schema = schema ∧ r'.values = schema.fields.map fun f => restored f.kind (hasNull records f) (r.value f) := by
  have hmem : ∀ f, r.value f ∈ valuesOf records f := fun f => List.mem_map_of_mem hr
  have hrow : (schema.fields.map fun f => kept f.kind (hasNull records f) (r.value f)).mapM valueOf =
      .ok (schema.fields.map fun f => restored f.kind (hasNull records f) (r.value f)) :=
    mapM_of_forall fun f hf =>
      valueOf_kept (null_or_plain hscalar hrecords hf _ (hmem f)) (hkeeps r hr f hf)
  have hcheck : ∀ f ∈ schema.fields, f.check (restored f.kind (hasNull records f) (r.value f)) =
      .ok (restored f.kind (hasNull records f) (r.value f)) := fun f hf =>
    Field.check_of_holds (holds_restored (hscalar f hf) (holds_value hrecords hr hf) (hmem f) (h f hf))
  rw [ofRow, hrow]
  exact Record.exists_ofEntries schema (List.map_id schema.fields).symm hcheck

/-- **The records come back one by one, with the values that the columns give back.** -/
theorem roundTrip_of_not_overflows (hfields : schema.fields ≠ [])
    (h : ∀ f ∈ schema.fields, ¬f.kind.Overflows (valuesOf records f)) :
    ∃ rs, roundTrip schema records = .ok rs ∧
      List.Forall₂ (fun r r' => r'.schema = schema ∧
        r'.values = schema.fields.map fun f => restored f.kind (hasNull records f) (r.value f)) records rs := by
  have hrows : rows (schema.fields.map fun f => (valuesOf records f).map (kept f.kind (hasNull records f))) =
      records.map fun r => schema.fields.map fun f => kept f.kind (hasNull records f) (r.value f) := by
    rw [← rows_map hfields]
    refine congrArg rows (List.map_congr_left fun f _ => ?_)
    rw [valuesOf, List.map_map]
    rfl
  have hrun : roundTrip schema records =
      (records.map fun r => schema.fields.map fun f => kept f.kind (hasNull records f) (r.value f)).mapM
        (ofRow schema) := by
    rw [← hrows, roundTrip, ofRecords_eq hscalar hrecords hkeeps h]
    simp only [bind, Except.bind, toRecords, select_eq, List.map_map, Function.comp_def]
    rfl
  rw [hrun, List.mapM_map]
  exact exists_mapM_forall₂ fun r hr => exists_ofRow hscalar hrecords hkeeps h hr

/-- The records that come back are alike those that were put in, if and only if every integer of eight bytes beside a
null fits a double. -/
theorem exists_alike_iff (hfields : schema.fields ≠ []) :
    (∃ rs, roundTrip schema records = .ok rs ∧ List.Forall₂ (fun r r' => r.alike r' = .ok true) records rs) ↔
      ∀ f ∈ schema.fields, f.kind = .int64 → hasNull records f = true →
        ∀ r ∈ records, ∀ i, (r.value f).asInt? = some i → FitsDouble i := by
  by_cases h : ∃ f ∈ schema.fields, f.kind.Overflows (valuesOf records f)
  · constructor
    · rintro ⟨rs, hok, -⟩
      rw [roundTrip_of_overflows hscalar hrecords hkeeps h] at hok
      cases hok
    · intro hfits
      obtain ⟨f, hf, hover⟩ := h
      exact absurd hover (not_overflows_of_fits hscalar hrecords hf (hfits f hf))
  · obtain ⟨rs, hok, hall⟩ := roundTrip_of_not_overflows hscalar hrecords hkeeps hfields fun f hf hover => h ⟨f, hf, hover⟩
    have halike : List.Forall₂ (fun r r' => r.alike r' = .ok true) records rs ↔
        ∀ r ∈ records, ∀ f ∈ schema.fields, f.kind = .int64 → hasNull records f = true →
          ∀ i, (r.value f).asInt? = some i → FitsDouble i := by
      refine forall₂_iff_forall hall fun r hr r' ⟨hschema, hvalues⟩ => ?_
      rw [Record.alike_iff ((hrecords r hr).trans hschema.symm), hrecords r hr]
      refine forall₂_congr fun f hf => ?_
      have hvalue : r'.value f = restored f.kind (hasNull records f) (r.value f) :=
        Record.value_eq_of_values (by rw [hschema, hvalues]) (by rwa [hschema])
      rw [hvalue]
      exact alike_restored_iff (null_or_plain hscalar hrecords hf _ (List.mem_map_of_mem hr)) (hkeeps r hr f hf)
    constructor
    · rintro ⟨rs', hok', hsame⟩ f hf hkind hnull r hr
      obtain rfl := Except.ok.inj (hok.symm.trans hok')
      exact halike.1 hsame r hr f hf hkind hnull
    · intro hfits
      exact ⟨rs, hok, halike.2 fun r hr f hf hkind hnull => hfits f hf hkind hnull r hr⟩

/-- **Records go through a frame unchanged if and only if no integer beside a null is too long for a double.** They
always come back one by one, with the values that the columns give back, unless an integer is rounded out of its
range. -/
theorem roundTrip_alike_iff (hfields : schema.fields ≠ []) :
    ((∃ f ∈ schema.fields, f.kind.Overflows (valuesOf records f)) ∧ roundTrip schema records = failType .lossyInteger ∨
      ∃ rs, roundTrip schema records = .ok rs ∧
        List.Forall₂ (fun r r' => r'.schema = schema ∧
          r'.values = schema.fields.map fun f => restored f.kind (hasNull records f) (r.value f)) records rs) ∧
    ((∃ rs, roundTrip schema records = .ok rs ∧ List.Forall₂ (fun r r' => r.alike r' = .ok true) records rs) ↔
      ∀ f ∈ schema.fields, f.kind = .int64 → hasNull records f = true →
        ∀ r ∈ records, ∀ i, (r.value f).asInt? = some i → FitsDouble i) := by
  refine ⟨?_, exists_alike_iff hscalar hrecords hkeeps hfields⟩
  by_cases h : ∃ f ∈ schema.fields, f.kind.Overflows (valuesOf records f)
  · exact .inl ⟨h, roundTrip_of_overflows hscalar hrecords hkeeps h⟩
  · exact .inr (roundTrip_of_not_overflows hscalar hrecords hkeeps hfields fun f hf hover => h ⟨f, hf, hover⟩)

end

/-! ## A sample -/

/-- A tally has a total, which may be unknown. -/
def tallySchema : Schema where
  name := "tally"
  fields := [⟨"total", .int64, true, by decide, by decide⟩]
  nodup := by decide

def tallies (total : Int) (h : inRange Kind.int64Range total = true) : List Record :=
  [⟨tallySchema, [.int total], h, trivial⟩, ⟨tallySchema, [.null], rfl, trivial⟩]

theorem schema_of_mem_tallies {total : Int} {h : inRange Kind.int64Range total = true} :
    ∀ r ∈ tallies total h, r.schema = tallySchema := by
  simp [tallies]

theorem keepsNumber_tallies {total : Int} {h : inRange Kind.int64Range total = true} :
    ∀ r ∈ tallies total h, ∀ f ∈ tallySchema.fields, f.kind.KeepsNumber (r.value f) := by
  simp only [tallies, tallySchema, List.forall_mem_cons]
  refine ⟨⟨fun x hx => ?_, by simp⟩, ⟨fun x hx => ?_, by simp⟩, by simp⟩
  · cases hx
  · cases hx

/-- A total up to which doubles count comes back, also beside an unknown one. -/
theorem roundTrip_alike_tallies :
    tallySchema.fields ≠ [] ∧ (∀ f ∈ tallySchema.fields, f.kind.isScalar = true) ∧
      (∀ r ∈ tallies 9007199254740992 rfl, r.schema = tallySchema) ∧
      (∀ r ∈ tallies 9007199254740992 rfl, ∀ f ∈ tallySchema.fields, f.kind.KeepsNumber (r.value f)) ∧
      ∃ rs, roundTrip tallySchema (tallies 9007199254740992 rfl) = .ok rs ∧
        List.Forall₂ (fun r r' => r.alike r' = .ok true) (tallies 9007199254740992 rfl) rs := by
  have hfits : ∀ f ∈ tallySchema.fields, ∀ r ∈ tallies 9007199254740992 rfl, ∀ i,
      (r.value f).asInt? = some i → FitsDouble i := by
    simp only [tallies, tallySchema, List.forall_mem_cons]
    refine ⟨⟨fun i hi => ?_, fun i hi => ?_, by simp⟩, by simp⟩
    · obtain rfl : 9007199254740992 = i := Option.some.inj hi
      exact ⟨1, 53, by decide, by decide⟩
    · cases hi
  exact ⟨by decide, by decide, schema_of_mem_tallies, keepsNumber_tallies,
    (roundTrip_alike_iff (by decide) schema_of_mem_tallies keepsNumber_tallies (by decide)).2.2
      fun f hf _ _ => hfits f hf⟩

/-- An odd total with more bits than a double comes back as another one. -/
theorem not_roundTrip_alike :
    ¬∀ (schema : Schema) (records : List Record), schema.fields ≠ [] →
      (∀ f ∈ schema.fields, f.kind.isScalar = true) → (∀ r ∈ records, r.schema = schema) →
      (∀ r ∈ records, ∀ f ∈ schema.fields, f.kind.KeepsNumber (r.value f)) →
      ∃ rs, roundTrip schema records = .ok rs ∧ List.Forall₂ (fun r r' => r.alike r' = .ok true) records rs := by
  intro h
  have hfits := (exists_alike_iff (by decide) schema_of_mem_tallies keepsNumber_tallies (by decide)).1
    (h tallySchema (tallies 9007199254740993 rfl) (by decide) (by decide) schema_of_mem_tallies keepsNumber_tallies)
  have hlong : FitsDouble 9007199254740993 :=
    hfits _ List.mem_cons_self rfl rfl _ List.mem_cons_self _ rfl
  rw [← throughDouble_eq_iff (natAbs_lt_doubleLimit rfl)] at hlong
  exact absurd hlong (by decide +kernel)

end Frame

end TypedRows
