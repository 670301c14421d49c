import TypedRows.Proofs.Record.Construction
/-!
# Equality of records

Two records of one schema are alike if and only if their values are, field by field (`Record.alike_iff`). A value
without parts that a field holds is alike itself, unless it is an undefined number (`Cell.alike_self`); integers are
alike if they are equal, a type code counting as its number (`Cell.alike_of_asInt?`).
-/

namespace TypedRows

/-! ## Values without parts -/

namespace Quantity

theorem alike?_exact (q r : Rat) : (exact q).alike? (exact r) = some (decide (q = r)) := by
  rw [alike?]
  · by_cases h : q = r
    · simp [h]
    · simp [h]
  all_goals simp

theorem alike?_self {q : Quantity} (h : q.isUndefined = false) : q.alike? q = some true := by
  cases q with
  | undefined kind => cases h
  | _ => simp [alike?]

theorem isUndefined_ofBinary {f : Format} {x : Binary f} (h : x.isNaN = false) : (ofBinary x).isUndefined = false := by
  rw [ofBinary]
  cases x.toRat? with
  | some q => rfl
  | none => simp [h, isUndefined]

end Quantity

namespace Cell

/-- Integers are compared by their values, and a type code is the number of the type. -/
theorem alike_of_asInt? {a b : Cell} {i j : Int} (ha : a.asInt? = some i) (hb : b.asInt? = some j) :
    a.alike b = .ok (decide (i = j)) := by
  have hnumbers : alikeNumbers (.exact i, .exact 0) (.exact j, .exact 0) = .ok (decide (i = j)) := by
    simp [alikeNumbers, Quantity.alike?_exact]
  have hbeside : a.alike b = alikeNumbers (.exact i, .exact 0) (.exact j, .exact 0) := by
    rcases asInt?_eq_some_iff.1 ha with rfl | ⟨t, rfl, rfl⟩
    · rcases asInt?_eq_some_iff.1 hb with rfl | ⟨t', rfl, rfl⟩ <;> rfl
    · rcases asInt?_eq_some_iff.1 hb with rfl | ⟨t', rfl, rfl⟩ <;> rfl
  rw [hbeside, hnumbers]

theorem alike_float {x : Double} (h : x.isNaN = false) : (float x).alike (float x) = .ok true := by
  have hbeside : (float x).alike (float x) =
      alikeNumbers (.ofBinary x, .exact 0) (.ofBinary x, .exact 0) := rfl
  rw [hbeside, alikeNumbers, Quantity.alike?_exact, Quantity.alike?_self (Quantity.isUndefined_ofBinary h)]
  rfl

/-- **A value without parts is alike itself**, unless it is an undefined number. -/
theorem alike_self {kind : Kind} {cell : Cell} (h : kind.Plain cell)
    (hdefined : ∀ x, cell = .float x → x.isNaN = false) : cell.alike cell = .ok true := by
  cases h with
  | boolean b => cases b <;> rfl
  | int32 i hi => rw [alike_of_asInt? hi hi, decide_eq_true rfl]
  | int64 i hi => rw [alike_of_asInt? hi hi, decide_eq_true rfl]
  | float32 x => exact alike_float (hdefined x rfl)
  | float64 x => exact alike_float (hdefined x rfl)
  | string s =>
    have htext : (text s).alike (text s) = .ok (s == s) := rfl
    rw [htext, beq_self_eq_true]
  | bytes data =>
    have hbytes : (bytes .frozen data).alike (bytes .frozen data) = .ok (data == data) := rfl
    rw [hbytes, beq_self_eq_true]

theorem alike_null : null.alike null = .ok true := rfl

end Cell

/-! ## Values by field -/

namespace Record

def value (r : Record) (f : Field) : Cell := (r.get? f.name).getD .null

variable {r r' : Record} {f : Field}

theorem value_of_mem {c : Field × Cell} (h : c ∈ r.fieldValues) : r.value c.1 = c.2 := by
  rw [value, get?, r.get?_of_mem_fieldValues h]
  rfl

theorem get?_eq (h : f ∈ r.schema.fields) : r.get? f.name = some (r.value f) := by
  rw [r.fields_eq] at h
  obtain ⟨c, hc, rfl⟩ := List.mem_map.1 h
  rw [value_of_mem hc]
  exact r.get?_of_mem_fieldValues hc

theorem get_eq (h : f ∈ r.schema.fields) : r.get f.name = .ok (r.value f) := by
  rw [get, get?_eq h]

theorem holds_value (h : f ∈ r.schema.fields) : f.holds (r.value f) = true := by
  rw [r.fields_eq] at h
  obtain ⟨c, hc, rfl⟩ := List.mem_map.1 h
  rw [value_of_mem hc]
  exact r.holds_of_mem_fieldValues c hc

theorem values_eq_map (r : Record) : r.values = r.schema.fields.map r.value := by
  rw [r.fields_eq, List.map_map, r.values_eq]
  exact List.map_congr_left fun c hc => (value_of_mem hc).symm

theorem entries_eq_map (r : Record) : r.entries = r.schema.fields.map fun f => (f.name, r.value f) := by
  rw [r.fields_eq, List.map_map, r.entries_eq]
  refine List.map_congr_left fun c hc => ?_
  rw [Function.comp_apply, value_of_mem hc]

/-- The values of a record are determined by their list. -/
theorem value_eq_of_values {value : Field → Cell} (hvalues : r.values = r.schema.fields.map value)
    (h : f ∈ r.schema.fields) : r.value f = value f := by
  rw [values_eq_map] at hvalues
  exact List.map_inj_left.1 hvalues f h

/-! ## Equality -/

theorem alikeValues_iff {b entries : List (String × Cell)} :
    alikeValues b entries = .ok true ↔
      ∀ entry ∈ entries, ∃ value', Entries.get? b entry.1 = some value' ∧ entry.2.alike value' = .ok true := by
  induction entries with
  | nil => simp [alikeValues]
  | cons entry entries ih =>
    rw [alikeValues, List.forall_mem_cons, ← ih]
    cases Entries.get? b entry.1 with
    | none => simp
    | some value' =>
      cases halike : entry.2.alike value' with
      | error e => simp [halike]
      | ok same => cases same <;> simp [halike]

/-- **Records of one schema are alike field by field.** -/
theorem alike_iff (hschema : r.schema = r'.schema) :
    r.alike r' = .ok true ↔ ∀ f ∈ r.schema.fields, (r.value f).alike (r'.value f) = .ok true := by
  have hlength : r.entries.length = r'.entries.length := by
    rw [entries_eq_map, entries_eq_map, List.length_map, List.length_map, hschema]
  rw [alike, if_pos hschema, alikeEntries, if_pos hlength, alikeValues_iff, entries_eq_map r, List.forall_mem_map]
  refine forall₂_congr fun f hf => ?_
  have hget : Entries.get? r'.entries f.name = some (r'.value f) := get?_eq (hschema ▸ hf)
  rw [hget]
  simp

end Record

end TypedRows
