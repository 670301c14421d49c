import TypedRows.Record.Writing
import TypedRows.Proofs.Statement.Binding
/-!
# Writing a record

A record is bound field by field (`Statement.bindField_eq` is one step). `bindAll_of_writable` and
`bindAll_of_refusal` follow the whole run: either every value can be bound and one binding for each field is
appended, or the first value that cannot be bound ends the run with its refusal, and the bindings of the fields
before it stay. What is appended depends on the record and the column types alone (`Record.bindings`).

Main statements: `Statement.write_outcome`, and `Statement.parameters_of_bindings` for a statement that was
empty before.
-/

namespace TypedRows

/-! ## What a record binds -/

/-- The bindings of columns at the positions from the given one on. -/
def bindingsFrom (position : Nat) (columns : List (Field × SqlType × Cell)) : List Binding :=
  columns.mapIdx fun i c => c.1.binding c.2.1 c.2.2 (position + i)

/-- The bindings of a record, one for each field, at the positions from 1 on. -/
def Record.bindings (r : Record) (types : ColumnTypes) : List Binding := bindingsFrom 1 (r.columns types)

theorem bindingsFrom_cons (position : Nat) (c : Field × SqlType × Cell) (columns : List (Field × SqlType × Cell)) :
    bindingsFrom position (c :: columns) =
      c.1.binding c.2.1 c.2.2 position :: bindingsFrom (position + 1) columns := by
  simp only [bindingsFrom, List.mapIdx_cons, Nat.add_zero, List.cons.injEq, true_and]
  congr 1
  funext i c
  rw [Nat.add_assoc, Nat.add_comm i]

theorem Record.holds_of_mem_columns (r : Record) (types : ColumnTypes) :
    ∀ c ∈ r.columns types, c.1.holds c.2.2 = true :=
  r.conforms.holds_of_mem

theorem ColumnTypes.size_of_validate {t : ColumnTypes} {schema : Schema} (h : t.validate schema = .ok ()) :
    t.types.length = schema.size := by
  unfold ColumnTypes.validate at h
  split at h
  · cases h
  · rename_i hsize
    rw [ColumnTypes.types, List.length_map]
    exact Decidable.not_not.1 hsize

theorem ColumnTypes.ofGiven_table {t : ColumnTypes} {schema : Schema} (h : t.validate schema = .ok ()) :
    ColumnTypes.ofGiven schema (.table t) = .ok t := by
  simp [ColumnTypes.ofGiven, ColumnTypes.read, h, bind, Except.bind, pure, Except.pure]

/-- Column types that are read are aligned. -/
theorem ColumnTypes.validate_of_ofGiven {schema : Schema} {given : ColumnTypes.Given} {t : ColumnTypes}
    (h : ColumnTypes.ofGiven schema given = .ok t) : t.validate schema = .ok () := by
  rw [ColumnTypes.ofGiven] at h
  cases hread : ColumnTypes.read schema given with
  | error e =>
    rw [hread] at h
    cases h
  | ok t' =>
    rw [hread] at h
    cases hvalid : t'.validate schema with
    | error e => simp [hvalid, bind, Except.bind] at h
    | ok u =>
      simp only [hvalid, bind, Except.bind, pure, Except.pure, Except.ok.injEq] at h
      exact h ▸ hvalid

/-- With aligned column types, the columns of a record are its fields, the types and its values. -/
theorem Record.columns_parts {r : Record} {t : ColumnTypes} (h : t.validate r.schema = .ok ()) :
    (r.columns t).map (·.1) = r.schema.fields ∧ (r.columns t).map (·.2.1) = t.types ∧
      (r.columns t).map (·.2.2) = r.values :=
  map_zip_zip (ColumnTypes.size_of_validate h) r.conforms.length_eq

theorem Record.length_columns {r : Record} {t : ColumnTypes} (h : t.validate r.schema = .ok ()) :
    (r.columns t).length = r.schema.size := by
  rw [Schema.size, ← (Record.columns_parts h).1, List.length_map]

def noteTypes : ColumnTypes := ⟨[(some "id", .tinyint), (some "text", .clob)]⟩

/-! ## A run over columns -/

namespace Statement

/-- One step of a run: the refusal ends it, otherwise it goes on with one binding more. -/
theorem bindAll_cons (s : Statement) {position : Nat} (hpos : 0 < position) {c : Field × SqlType × Cell}
    (columns : List (Field × SqlType × Cell)) (hv : c.1.holds c.2.2 = true) :
    s.bindAll position (c :: columns) =
      match c.1.refusal? c.2.1 c.2.2 s.count position with
      | some e => (s, .error e)
      | none => (s.append [c.1.binding c.2.1 c.2.2 position]).bindAll (position + 1) columns := by
  obtain ⟨f, type, value⟩ := c
  rw [bindAll, s.bindField_eq hpos type hv]
  dsimp only
  cases f.refusal? type value s.count position <;> rfl

section Runs

variable {columns : List (Field × SqlType × Cell)}

/-- If every value can be bound, every value is bound. -/
theorem bindAll_of_writable (s : Statement) {position : Nat} (hpos : 0 < position)
    (hv : ∀ c ∈ columns, c.1.holds c.2.2 = true)
    (hw : ∀ i c, columns[i]? = some c → Writable s.count (position + i) c.1 c.2.1 c.2.2) :
    s.bindAll position columns = (s.append (bindingsFrom position columns), .ok ()) := by
  induction columns generalizing s position with
  | nil => rw [bindAll, bindingsFrom, List.mapIdx_nil, append_nil]
  | cons c columns ih =>
    have hfirst := Field.refusal?_eq_none_iff.2 (hw 0 c rfl)
    rw [Nat.add_zero] at hfirst
    have hrest := ih (s.append [c.1.binding c.2.1 c.2.2 position]) (Nat.le_add_left 1 position)
      (fun c' h => hv c' (List.mem_cons_of_mem _ h)) fun i c' hi => by
        rw [Nat.add_right_comm]
        exact hw (i + 1) c' hi
    rw [s.bindAll_cons hpos columns (hv c List.mem_cons_self), hfirst]
    dsimp only
    rw [hrest, bindingsFrom_cons, ← append_cons]

/-- The first value that cannot be bound ends the run; what comes before it stays bound. -/
theorem bindAll_of_refusal (s : Statement) {position i : Nat} {c : Field × SqlType × Cell} {e : Error}
    (hpos : 0 < position) (hv : ∀ c ∈ columns, c.1.holds c.2.2 = true) (hi : columns[i]? = some c)
    (he : c.1.refusal? c.2.1 c.2.2 s.count (position + i) = some e)
    (hbefore : ∀ j < i, ∀ c', columns[j]? = some c' → Writable s.count (position + j) c'.1 c'.2.1 c'.2.2) :
    s.bindAll position columns = (s.append ((bindingsFrom position columns).take i), .error e) := by
  induction columns generalizing s position i with
  | nil => cases hi
  | cons c₀ columns ih =>
    rw [s.bindAll_cons hpos columns (hv c₀ List.mem_cons_self)]
    cases i with
    | zero =>
      cases hi
      rw [Nat.add_zero] at he
      rw [he, List.take_zero, append_nil]
    | succ i =>
      -- The rest of the run starts one position later and with one binding more.
      have hfirst := Field.refusal?_eq_none_iff.2 (hbefore 0 (Nat.succ_pos i) c₀ rfl)
      rw [Nat.add_zero] at hfirst
      have hrest := ih (s.append [c₀.1.binding c₀.2.1 c₀.2.2 position]) (Nat.le_add_left 1 position)
        (fun c' h => hv c' (List.mem_cons_of_mem _ h)) hi (by rw [Nat.add_right_comm]; exact he)
        fun j hj c' hc => by
          rw [Nat.add_right_comm]
          exact hbefore (j + 1) (Nat.succ_lt_succ hj) c' hc
      rw [hfirst]
      dsimp only
      rw [hrest, bindingsFrom_cons, List.take_succ_cons, ← append_cons]

/-- A run that succeeds met only values that can be bound. -/
theorem writable_of_bindAll (s : Statement) {position : Nat} (hpos : 0 < position)
    (hv : ∀ c ∈ columns, c.1.holds c.2.2 = true) (h : (s.bindAll position columns).2 = .ok ()) :
    ∀ i c, columns[i]? = some c → Writable s.count (position + i) c.1 c.2.1 c.2.2 := by
  induction columns generalizing s position with
  | nil =>
    intro i c hi
    cases hi
  | cons c₀ columns ih =>
    intro i c hi
    rw [s.bindAll_cons hpos columns (hv c₀ List.mem_cons_self)] at h
    cases he : c₀.1.refusal? c₀.2.1 c₀.2.2 s.count position with
    | some e =>
      rw [he] at h
      cases h
    | none =>
      rw [he] at h
      cases i with
      | zero =>
        cases hi
        exact Field.refusal?_eq_none_iff.1 he
      | succ i =>
        have hrest := ih _ (Nat.le_add_left 1 position) (fun c' h => hv c' (List.mem_cons_of_mem _ h)) h i c hi
        rwa [Nat.add_right_comm] at hrest

/-- A run that fails ends with the refusal of a value. -/
theorem exists_refusal_of_bindAll (s : Statement) {position : Nat} {e : Error} (hpos : 0 < position)
    (hv : ∀ c ∈ columns, c.1.holds c.2.2 = true) (h : (s.bindAll position columns).2 = .error e) :
    ∃ (i : Nat) (c : Field × SqlType × Cell), columns[i]? = some c ∧
      c.1.refusal? c.2.1 c.2.2 s.count (position + i) = some e := by
  induction columns generalizing s position with
  | nil => cases h
  | cons c₀ columns ih =>
    rw [s.bindAll_cons hpos columns (hv c₀ List.mem_cons_self)] at h
    cases he : c₀.1.refusal? c₀.2.1 c₀.2.2 s.count position with
    | some e' =>
      rw [he] at h
      cases h
      exact ⟨0, c₀, rfl, he⟩
    | none =>
      rw [he] at h
      obtain ⟨i, c, hi, hrefusal⟩ := ih _ (Nat.le_add_left 1 position)
        (fun c' hc' => hv c' (List.mem_cons_of_mem _ hc')) h
      refine ⟨i + 1, c, hi, ?_⟩
      rw [Nat.add_right_comm] at hrefusal
      exact hrefusal

end Runs

/-! ## Writing -/

theorem write_table (s : Statement) (r : Record) {t : ColumnTypes} (ht : t.validate r.schema = .ok ()) :
    s.write r r.schema (.table t) = s.bindAll 1 (r.columns t) := by
  rw [write, ColumnTypes.ofGiven_table ht]
  simp only [↓reduceIte]

/-- A record that is written is bound as a whole. -/
theorem write_ok {s : Statement} {r : Record} {t : ColumnTypes} (ht : t.validate r.schema = .ok ())
    (h : (s.write r r.schema (.table t)).2 = .ok ()) :
    (∀ i c, (r.columns t)[i]? = some c → Writable s.count (i + 1) c.1 c.2.1 c.2.2) ∧
      s.write r r.schema (.table t) = (s.append (r.bindings t), .ok ()) := by
  rw [write_table s r ht] at h ⊢
  have hw := s.writable_of_bindAll (Nat.succ_pos 0) (r.holds_of_mem_columns t) h
  refine ⟨fun i c hi => ?_, s.bindAll_of_writable (Nat.succ_pos 0) (r.holds_of_mem_columns t) hw⟩
  rw [Nat.add_comm]
  exact hw i c hi

/-- **The exact outcome of writing a record.** It succeeds if and only if every value can be bound at its
position, and then appends the bindings of the record. Otherwise the first value that cannot be bound gives
the failure, and the bindings of the fields before it are appended. Nothing depends on what the statement held
before but the number of its parameters. -/
theorem write_outcome (s : Statement) (r : Record) {schema : Schema} {t : ColumnTypes} (hr : r.schema = schema)
    (ht : t.validate schema = .ok ()) :
    (r.columns t).length = schema.size ∧ (r.bindings t).length = schema.size ∧
      ((s.write r schema (.table t)).2 = .ok () ↔
        ∀ i c, (r.columns t)[i]? = some c → Writable s.count (i + 1) c.1 c.2.1 c.2.2) ∧
      ((s.write r schema (.table t)).2 = .ok () → (s.write r schema (.table t)).1 = s.append (r.bindings t)) ∧
      ∀ i c, (r.columns t)[i]? = some c → ¬Writable s.count (i + 1) c.1 c.2.1 c.2.2 →
        (∀ j < i, ∀ c', (r.columns t)[j]? = some c' → Writable s.count (j + 1) c'.1 c'.2.1 c'.2.2) →
        ∃ e, c.1.refusal? c.2.1 c.2.2 s.count (i + 1) = some e ∧
          s.write r schema (.table t) = (s.append ((r.bindings t).take i), .error e) := by
  subst hr
  have hlength := Record.length_columns ht
  have hv := r.holds_of_mem_columns t
  refine ⟨hlength, ?_, ⟨fun h => (write_ok ht h).1, fun h => ?_⟩, fun h => by rw [(write_ok ht h).2], ?_⟩
  · rw [Record.bindings, bindingsFrom, List.length_mapIdx, hlength]
  · rw [write_table s r ht, s.bindAll_of_writable (Nat.succ_pos 0) hv fun i c hi => Nat.add_comm i 1 ▸ h i c hi]
  · intro i c hi hnot hbefore
    cases he : c.1.refusal? c.2.1 c.2.2 s.count (i + 1) with
    | none => exact absurd (Field.refusal?_eq_none_iff.1 he) hnot
    | some e =>
      rw [write_table s r ht]
      refine ⟨e, rfl, s.bindAll_of_refusal (Nat.succ_pos 0) hv hi (Nat.add_comm i 1 ▸ he) fun j hj c' hc => ?_⟩
      rw [Nat.add_comm]
      exact hbefore j hj c' hc

theorem write_outcome_note :
    (note "a").schema = noteSchema ∧ noteTypes.validate noteSchema = .ok () ∧
      ((ofSql "" 2 none).write (note "a") noteSchema (.table noteTypes)).1 =
        (ofSql "" 2 none).append ((note "a").bindings noteTypes) :=
  ⟨rfl, rfl, (write_outcome (t := noteTypes) (ofSql "" 2 none) (note "a") rfl rfl).2.2.2.1 rfl⟩

/-! ## Parameters of a statement that was empty -/

/-- Bindings of columns fill the positions one after another. -/
theorem foldl_set_bindingsFrom (front slots : List (Option Cell)) {columns : List (Field × SqlType × Cell)}
    (h : columns.length ≤ slots.length) :
    (bindingsFrom (front.length + 1) columns).foldl
        (fun slots b => slots.set (b.index - 1).toNat (some b.parameter.value)) (front ++ slots) =
      front ++ columns.map (fun c => some (c.1.stored c.2.1 c.2.2)) ++ slots.drop columns.length := by
  -- `front` is what the columns before have filled; it grows by one slot with every column.
  induction columns generalizing front slots with
  | nil => simp [bindingsFrom]
  | cons c columns ih =>
    match slots, h with
    | slot :: slots, h =>
      have hrest := ih (front ++ [some (c.1.stored c.2.1 c.2.2)]) slots (Nat.le_of_succ_le_succ h)
      have hindex : ((front.length + 1 : Nat) - 1 : Int).toNat = front.length := by omega
      rw [List.length_append, List.length_singleton, List.append_assoc, List.singleton_append] at hrest
      rw [bindingsFrom_cons, List.foldl_cons, Field.binding_index, Field.binding_value, hindex,
        List.set_append_right _ _ (Nat.le_refl _), Nat.sub_self, List.set_cons_zero, hrest]
      simp

theorem unbound_of_slots {s : Statement} {values : List Cell} (h : s.slots = values.map some) :
    s.unbound = [] := by
  rw [unbound, h, List.map_eq_nil_iff, List.filter_eq_nil_iff]
  intro i hi
  rw [List.length_map, List.mem_range] at hi
  simp [hi]

theorem parameters_of_slots {s : Statement} {values : List Cell} (h : s.slots = values.map some) :
    s.parameters = .ok (values.map s.sent) := by
  rw [parameters, unbound_of_slots h, h]
  simp [List.filterMap_map]

/-- **The parameters of a record** on a statement that had none and has one position for each column. -/
theorem parameters_of_bindings (sql : String) (dialect : Option String) (columns : List (Field × SqlType × Cell)) :
    ((ofSql sql columns.length dialect).append (bindingsFrom 1 columns)).parameters =
      .ok (columns.map fun c => (ofSql sql columns.length dialect).sent (c.1.stored c.2.1 c.2.2)) := by
  have hslots : ((ofSql sql columns.length dialect).append (bindingsFrom 1 columns)).slots =
      (columns.map fun c => c.1.stored c.2.1 c.2.2).map some := by
    have hfill := foldl_set_bindingsFrom [] (emptySlots columns.length)
      (show columns.length ≤ (emptySlots columns.length).length by simp [emptySlots])
    simpa [append, ofSql, emptySlots, Function.comp_def] using hfill
  rw [parameters_of_slots hslots, List.map_map]
  rfl

end Statement

end TypedRows
