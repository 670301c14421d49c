import TypedRows.Holder
import TypedRows.Proofs.Schema.Inference
import TypedRows.Proofs.Statement.Writing
/-!
# What a holder keeps together

A holder is made, read into, written to statements and written as bytes, in any order and with any failures in
between (`Holder.run`). Its column types always go with its record (`Holder.Aligned`). Reading replaces the record
before the column types are looked at a second time; that second look cannot fail, because the record was read
with the same column types (`Holder.readFields_cases`). So no failure comes between the two.

What remains to stop a holder from being written is in the record itself or in the statement (`Holder.Obstacle`).

Main statement: `Holder.run_aligned`.
-/

namespace TypedRows

/-! ## Runs -/

namespace Holder

inductive Action where
  | make (record : Option Record) (given : Option ColumnTypes.Given)
  | read (schema : Schema) (given : Option ColumnTypes.Given) (row : Cell)
  | write (s : Statement)
  | dump (stream : ByteStream)

/-- The holder after an action, and how the action ends. A holder that cannot be made leaves the one before in its
place. -/
def perform (h : Holder) : Action → Holder × Except Error Unit
  | .make record given =>
    match ofParts record given with
    | .ok made => (made, .ok ())
    | .error e => (h, .error e)
  | .read schema given row =>
    let (next, outcome) := h.readFields schema given row
    (next, outcome.outcome.map fun _ => ())
  | .write s => (h, (h.write s).2)
  | .dump stream => (h, (h.dump stream).2)

/-- The holder after a run of actions, failed ones among them. -/
def run (actions : List Action) : Holder := actions.foldl (fun h a => (h.perform a).1) empty

/-- The holder has no column types, or has a record and the column types are valid for its schema: they have the
names of its fields, in the same order. -/
inductive Aligned : Holder → Prop where
  | untyped (record : Option Record) : Aligned ⟨record, none⟩
  | typed (r : Record) (t : ColumnTypes) (valid : t.validate r.schema = .ok ())
    (names : t.names = r.schema.names.map some) : Aligned ⟨some r, some t⟩

/-- Why a holder is not written to a statement with `count` parameters. -/
inductive Obstacle (count : Int) : Holder → Error → Prop where
  /-- There are no column types, perhaps because there is no record. -/
  | incomplete (record : Option Record) : Obstacle count ⟨record, none⟩ (.mismatch .incompleteHolder)
  | notScalar {r : Record} {t : ColumnTypes} {c : Field × SqlType × Cell} (column : c ∈ r.columns t)
    (parts : c.1.kind.isScalar = false) :
    Obstacle count ⟨some r, some t⟩ (.mismatch (.notScalar c.1.name c.1.kind))
  | range {r : Record} {t : ColumnTypes} {c : Field × SqlType × Cell} {fault : RangeFault} (column : c ∈ r.columns t)
    (outside : c.1.kind.rangeFault? c.2.1 c.2.2 = some fault) : Obstacle count ⟨some r, some t⟩ (.range fault)
  | tooFew {r : Record} {t : ColumnTypes} {position : Nat} (field : position ≤ r.schema.size)
    (short : count < position) : Obstacle count ⟨some r, some t⟩ (.position (.parameter position count))

/-! ## One action -/

theorem aligned_of_validate {r : Record} {t : ColumnTypes} (h : t.validate r.schema = .ok ()) :
    Aligned ⟨some r, some t⟩ :=
  .typed r t h (ColumnTypes.validate_eq_ok_iff.1 h)

/-- A row that was read with given column types was read with column types that go with the schema. -/
theorem exists_types_of_ofRow {schema : Schema} {given : ColumnTypes.Given} {row : Cell} {r : Record}
    (h : (Record.ofRow schema (some given) row).outcome = .ok r) : ∃ t, ColumnTypes.ofGiven schema given = .ok t := by
  obtain ⟨t, _, _, htypes, _⟩ := Record.ofRow_ok h
  exact ⟨t, htypes⟩

/-- **Reading changes both parts or neither.** -/
theorem readFields_cases (h : Holder) (schema : Schema) (given : Option ColumnTypes.Given) (row : Cell) :
    (∃ calls e, h.readFields schema given row = (h, ⟨calls, .error e⟩)) ∨
    ∃ calls r types, h.readFields schema given row = (⟨some r, types⟩, ⟨calls, .ok r⟩) ∧ r.schema = schema ∧
      (given = none ∧ types = none ∨
        ∃ g t, given = some g ∧ types = some t ∧ ColumnTypes.ofGiven schema g = .ok t) := by
  rw [readFields]
  cases hrow : Record.ofRow schema given row with
  | mk calls outcome =>
    cases outcome with
    | error e => exact .inl ⟨calls, e, rfl⟩
    | ok r =>
      have hread : (Record.ofRow schema given row).outcome = .ok r := by rw [hrow]
      refine .inr ?_
      cases given with
      | none => exact ⟨calls, r, none, rfl, Record.schema_of_ofRow hread, .inl ⟨rfl, rfl⟩⟩
      | some g =>
        obtain ⟨t, ht⟩ := exists_types_of_ofRow hread
        refine ⟨calls, r, some t, ?_, Record.schema_of_ofRow hread, .inr ⟨g, t, rfl, rfl, ht⟩⟩
        have hgiven : (some g).mapM (ColumnTypes.ofGiven schema) = .ok (some t) := by
          show (some <$> ColumnTypes.ofGiven schema g) = _
          rw [ht]
          rfl
        simp only [hgiven]

theorem aligned_ofParts {record : Option Record} {given : Option ColumnTypes.Given} {h : Holder}
    (hmade : ofParts record given = .ok h) : h.Aligned := by
  unfold ofParts at hmade
  split at hmade
  · rename_i r given
    cases ht : ColumnTypes.ofGiven r.schema given with
    | error e =>
      rw [ht] at hmade
      cases hmade
    | ok t =>
      rw [ht] at hmade
      cases hmade
      exact aligned_of_validate (ColumnTypes.validate_of_ofGiven ht)
  · cases hmade
    exact .untyped record

theorem aligned_readFields {h : Holder} (hh : h.Aligned) (schema : Schema) (given : Option ColumnTypes.Given)
    (row : Cell) : (h.readFields schema given row).1.Aligned := by
  rcases h.readFields_cases schema given row with
    ⟨calls, e, hread⟩ | ⟨calls, r, types, hread, rfl, ⟨-, rfl⟩ | ⟨g, t, -, rfl, ht⟩⟩
  · rw [hread]
    exact hh
  · rw [hread]
    exact .untyped (some r)
  · rw [hread]
    exact aligned_of_validate (ColumnTypes.validate_of_ofGiven ht)

/-- One action leaves the column types in step with the record, whether it succeeds or not. -/
theorem Aligned.perform {h : Holder} (hh : h.Aligned) (a : Action) : (h.perform a).1.Aligned := by
  cases a with
  | make record given =>
    rw [Holder.perform]
    cases hmade : ofParts record given with
    | error e => exact hh
    | ok made => exact aligned_ofParts hmade
  | read schema given row => exact aligned_readFields hh schema given row
  | write s => exact hh
  | dump stream => exact hh

theorem aligned_run (actions : List Action) : (run actions).Aligned := by
  have hfrom : ∀ h : Holder, h.Aligned → (actions.foldl (fun h a => (h.perform a).1) h).Aligned := by
    induction actions with
    | nil => exact fun h hh => hh
    | cons a actions ih => exact fun h hh => ih _ (hh.perform a)
  exact hfrom empty (.untyped none)

/-! ## Writing -/

theorem Obstacle.of_refusal? {r : Record} {t : ColumnTypes} {i : Nat} {c : Field × SqlType × Cell} {count : Int}
    {e : Error} (hsize : (r.columns t).length = r.schema.size) (hi : (r.columns t)[i]? = some c)
    (he : c.1.refusal? c.2.1 c.2.2 count (1 + i) = some e) : Obstacle count ⟨some r, some t⟩ e := by
  have hc := List.mem_of_getElem? hi
  have hlt := (List.getElem?_eq_some_iff.1 hi).1
  unfold Field.refusal? at he
  split at he
  · split at he
    · rename_i fault hfault
      cases he
      exact .range hc hfault
    · split at he
      · cases he
      · rename_i hshort
        cases he
        exact .tooFew (by omega) (by omega)
  · rename_i hparts
    cases he
    exact .notScalar hc (by simpa using hparts)

/-- **An aligned holder is written unless its record or the statement stands in the way.** -/
theorem Aligned.obstacle_of_write {h : Holder} (hh : h.Aligned) {s : Statement} {e : Error}
    (he : (h.write s).2 = .error e) : Obstacle s.count h e := by
  cases hh with
  | untyped record =>
    have hwrite : (Holder.mk record none).write s = (s, failMismatch .incompleteHolder) := by
      cases record <;> rfl
    rw [hwrite] at he
    cases he
    exact .incomplete record
  | typed r t ht _ =>
    have hwrite : (Holder.mk (some r) (some t)).write s = s.write r r.schema (.table t) := rfl
    rw [hwrite, s.write_table r ht] at he
    obtain ⟨i, c, hi, hrefusal⟩ :=
      s.exists_refusal_of_bindAll (Nat.succ_pos 0) (r.holds_of_mem_columns t) he
    exact .of_refusal? (Record.length_columns ht) hi hrefusal

/-! ## Runs of actions -/

/-- **What holds after every run.** The column types go with the record. Reading that fails leaves both as they
were, reading that succeeds replaces both, and writing changes neither. The holder is never kept from being written
by column types that do not go with the record or by another schema. -/
theorem run_aligned (actions : List Action) :
    (run actions).Aligned ∧
    (∀ schema given row,
      (∃ calls e, (run actions).readFields schema given row = (run actions, ⟨calls, .error e⟩)) ∨
      ∃ calls r types, (run actions).readFields schema given row = (⟨some r, types⟩, ⟨calls, .ok r⟩) ∧
        r.schema = schema ∧
        (given = none ∧ types = none ∨
          ∃ g t, given = some g ∧ types = some t ∧ ColumnTypes.ofGiven schema g = .ok t)) ∧
    (∀ s, ((run actions).perform (.write s)).1 = run actions) ∧
    (∀ stream, ((run actions).perform (.dump stream)).1 = run actions) ∧
    ∀ s e, ((run actions).write s).2 = .error e → Obstacle s.count (run actions) e := by
  have haligned := aligned_run actions
  refine ⟨haligned, ?_, ?_, ?_, ?_⟩
  · intro schema given row
    exact (run actions).readFields_cases schema given row
  · intro s
    rfl
  · intro stream
    rfl
  · intro s e he
    exact haligned.obstacle_of_write he

end Holder

end TypedRows
