import TypedRows.Proofs.Statement.Log
/-!
# Executing a statement after a write

A write binds the positions from 1 on, one for each field, up to the first failure. So the positions that it
binds are the numbers from 1 to some `k` (`Statement.write_positions`), with `k` the number of fields if the
write succeeds and less if it fails. On a statement that was empty a failed write therefore leaves a position
without a value, and such a statement is not sent.

Main statement: `Statement.write_guards_execution`, for column types in any form.
-/

namespace TypedRows

/-- The positions of the bindings of columns follow one another. -/
theorem index_bindingsFrom (position : Nat) (columns : List (Field × SqlType × Cell)) :
    (bindingsFrom position columns).map Binding.index =
      (List.range' position columns.length).map fun (p : Nat) => (p : Int) := by
  induction columns generalizing position with
  | nil => rfl
  | cons c columns ih =>
    rw [bindingsFrom_cons, List.map_cons, ih, Field.binding_index, List.length_cons, List.range'_succ, List.map_cons]

namespace Statement

/-! ## The positions that a write binds -/

/-- A run over columns binds the first `k` of them; if it fails, not all. -/
theorem bindAll_positions (s : Statement) {position : Nat} (hpos : 0 < position)
    {columns : List (Field × SqlType × Cell)} (hv : ∀ c ∈ columns, c.1.holds c.2.2 = true) :
    ∃ k ≤ columns.length, (s.bindAll position columns).1 = s.append ((bindingsFrom position columns).take k) ∧
      (∀ j < k, ((position + j : Nat) : Int) ≤ s.count) ∧
      ((s.bindAll position columns).2 = .ok () → k = columns.length) ∧
      ∀ e, (s.bindAll position columns).2 = .error e → k < columns.length := by
  induction columns generalizing s position with
  | nil => exact ⟨0, Nat.le_refl 0, (append_nil s).symm, by simp, fun _ => rfl, fun _ => nofun⟩
  | cons c columns ih =>
    rw [s.bindAll_cons hpos columns (hv c List.mem_cons_self)]
    cases he : c.1.refusal? c.2.1 c.2.2 s.count position with
    | some e => exact ⟨0, Nat.zero_le _, by rw [List.take_zero, append_nil], by simp, nofun, fun _ _ => Nat.succ_pos _⟩
    | none =>
      have hinside := (Field.refusal?_eq_none_iff.1 he).inside
      obtain ⟨k, hk, hafter, hcount, hok, herror⟩ := ih (s.append [c.1.binding c.2.1 c.2.2 position])
        (Nat.le_add_left 1 position) fun c' h => hv c' (List.mem_cons_of_mem _ h)
      refine ⟨k + 1, Nat.succ_le_succ hk, ?_, fun j hj => ?_, fun h => congrArg (· + 1) (hok h),
        fun e h => Nat.succ_lt_succ (herror e h)⟩
      · dsimp only
        rw [hafter, bindingsFrom_cons, List.take_succ_cons, ← append_cons]
      · cases j with
        | zero => exact hinside
        | succ j =>
          have hj' := hcount j (Nat.lt_of_succ_lt_succ hj)
          rwa [Nat.add_right_comm] at hj'

/-- A write fails before it binds anything, or it is a run over the columns of the record. -/
theorem write_cases (s : Statement) (r : Record) (schema : Schema) (given : ColumnTypes.Given) :
    (∃ e, s.write r schema given = (s, .error e)) ∨
      ∃ t, t.validate r.schema = .ok () ∧ r.schema = schema ∧ s.write r schema given = s.bindAll 1 (r.columns t) := by
  rw [write]
  cases hgiven : ColumnTypes.ofGiven schema given with
  | error e => exact .inl ⟨e, rfl⟩
  | ok t =>
    by_cases hschema : r.schema = schema
    · subst hschema
      exact .inr ⟨t, ColumnTypes.validate_of_ofGiven hgiven, rfl, by simp only [↓reduceIte]⟩
    · exact .inl ⟨.mismatch (.otherSchema r.schema schema), by simp only [if_neg hschema]; rfl⟩

/-- **The positions that a write binds** are the numbers from 1 to some `k`, all of them positions of the
statement. If the write succeeds there is one for each field; if it fails there is none, or not one for each. -/
theorem write_positions (s : Statement) (r : Record) (schema : Schema) (given : ColumnTypes.Given) :
    ∃ bs, (s.write r schema given).1 = s.append bs ∧
      bs.map Binding.index = (List.range' 1 bs.length).map (fun (p : Nat) => (p : Int)) ∧
      (∀ b ∈ bs, b.index ≤ s.count) ∧
      ((s.write r schema given).2 = .ok () → bs.length = schema.size) ∧
      ∀ e, (s.write r schema given).2 = .error e → bs = [] ∨ bs.length < schema.size := by
  rcases s.write_cases r schema given with ⟨e, hwrite⟩ | ⟨t, ht, rfl, hwrite⟩
  · rw [hwrite]
    exact ⟨[], (append_nil s).symm, rfl, by simp, nofun, fun _ _ => .inl rfl⟩
  · rw [hwrite, ← Record.length_columns ht]
    obtain ⟨k, hk, hafter, hcount, hok, herror⟩ := s.bindAll_positions (Nat.succ_pos 0) (r.holds_of_mem_columns t)
    have hlength : ((bindingsFrom 1 (r.columns t)).take k).length = k := by
      rw [List.length_take, bindingsFrom, List.length_mapIdx, Nat.min_eq_left hk]
    have hindex : ((bindingsFrom 1 (r.columns t)).take k).map Binding.index =
        (List.range' 1 k).map fun (p : Nat) => (p : Int) := by
      rw [List.map_take, index_bindingsFrom, ← List.map_take, List.take_range'_of_length_ge hk]
    refine ⟨_, hafter, by rw [hlength, hindex], fun b hb => ?_, fun h => by rw [hlength, hok h],
      fun e h => .inr (by rw [hlength]; exact herror e h)⟩
    obtain ⟨p, hp, hbp⟩ := List.mem_map.1 (hindex ▸ List.mem_map_of_mem hb)
    rw [List.mem_range'_1] at hp
    have hj := hcount (p - 1) (by omega)
    omega

/-! ## Execution -/

theorem InStep.append_all {s : Statement} (h : s.InStep) {bs : List Binding}
    (hbs : ∀ b ∈ bs, 1 ≤ b.index ∧ b.index ≤ s.count) : (s.append bs).InStep := by
  induction bs generalizing s with
  | nil => rwa [append_nil]
  | cons b bs ih =>
    rw [append_cons]
    exact ih (h.append (hbs b List.mem_cons_self).1 (hbs b List.mem_cons_self).2) fun b' hb' =>
      hbs b' (List.mem_cons_of_mem _ hb')

/-- A statement without values: it is new, or its parameters were just cleared. -/
def IsFresh (s : Statement) : Prop :=
  (∃ sql count dialect, s = ofSql sql count dialect) ∨ ∃ before : Statement, s = before.clear

theorem IsFresh.inStep {s : Statement} (h : s.IsFresh) : s.InStep := by
  rcases h with ⟨sql, count, dialect, rfl⟩ | ⟨before, rfl⟩
  · exact inStep_ofSql sql count dialect
  · exact inStep_clear before

theorem IsFresh.bindings_eq {s : Statement} (h : s.IsFresh) : s.bindings = [] := by
  rcases h with ⟨sql, count, dialect, rfl⟩ | ⟨before, rfl⟩ <;> rfl

/-- On a statement that was empty the positions from 1 to `k` have a value after a write, and no others. -/
theorem IsFresh.isComplete_append_iff {s : Statement} (h : s.IsFresh) {bs : List Binding}
    (hindex : bs.map Binding.index = (List.range' 1 bs.length).map fun (p : Nat) => (p : Int))
    (hcount : ∀ b ∈ bs, b.index ≤ s.count) :
    (s.append bs).isComplete = true ↔ s.count ≤ bs.length := by
  have hmem : ∀ p : Int, (∃ b ∈ bs, b.index = p) ↔ 1 ≤ p ∧ p ≤ bs.length := by
    intro p
    rw [← List.mem_map, hindex]
    simp only [List.mem_map, List.mem_range'_1]
    constructor
    · rintro ⟨q, hq, rfl⟩
      omega
    · intro hp
      exact ⟨p.toNat, by omega, by omega⟩
  have hstep : (s.append bs).InStep :=
    h.inStep.append_all fun b hb => ⟨((hmem b.index).1 ⟨b, hb, rfl⟩).1, hcount b hb⟩
  have hlog : (s.append bs).bindings = bs := by rw [append, h.bindings_eq, List.nil_append]
  rw [hstep.isComplete_iff, hlog]
  constructor
  · intro hall
    by_contra hlt
    -- The position after the last one that is bound.
    obtain ⟨b, hb, hbp⟩ := hall (bs.length + 1) (by omega) (by show _ ≤ s.count; omega)
    have := (hmem b.index).1 ⟨b, hb, rfl⟩
    omega
  · intro hle p hlo hhi
    have hhi : (p : Int) ≤ s.count := hhi
    exact (hmem p).2 ⟨by omega, by omega⟩

/-- **A failed write is never executed.** After a failure the statement is incomplete, it has no parameters,
and an execution sends nothing and fails with the failure of the parameters. After a success on a statement
with one position for each field, an execution sends the parameters once. -/
theorem write_guards_execution {s : Statement} (r : Record) {schema : Schema} (given : ColumnTypes.Given)
    (hs : s.IsFresh) (hcount : 1 ≤ s.count) (hsize : (schema.size : Int) ≤ s.count) :
    (∀ e, (s.write r schema given).2 = .error e →
      (s.write r schema given).1.isComplete = false ∧
      ∃ first rest, (s.write r schema given).1.parameters = failValue (.unbound first rest) ∧
        ∀ {α : Type} (answer : Except Fault α),
          (s.write r schema given).1.execute answer = ([], failValue (.unbound first rest))) ∧
    ((s.write r schema given).2 = .ok () → s.count = schema.size →
      (s.write r schema given).1.isComplete = true ∧
      ∃ values, (s.write r schema given).1.parameters = .ok values ∧
        ∀ {α : Type} (answer : Except Fault α),
          (s.write r schema given).1.execute answer = ([⟨s.sql, values⟩], answer.mapError .fault)) := by
  obtain ⟨bs, hafter, hindex, hinside, hok, herror⟩ := s.write_positions r schema given
  have hiff := hs.isComplete_append_iff hindex hinside
  rw [hafter]
  constructor
  · intro e he
    have hcomplete : (s.append bs).isComplete = false := by
      rw [Bool.eq_false_iff, ne_eq, hiff]
      rcases herror e he with rfl | hlt
      · rw [List.length_nil]
        omega
      · omega
    obtain ⟨first, rest, -, hfails⟩ := parameters_of_not_complete hcomplete
    refine ⟨hcomplete, first, rest, hfails, fun answer => ?_⟩
    rw [execute, hfails]
    rfl
  · intro h heq
    have hcomplete := hiff.2 (Int.le_of_eq (by rw [hok h, heq]))
    obtain ⟨values, hvalues⟩ := parameters_ok_iff.2 hcomplete
    refine ⟨hcomplete, values, hvalues, fun answer => ?_⟩
    rw [execute, hvalues]
    rfl

/-- A note written with the types of its table and with no types at all. -/
theorem write_guards_execution_note :
    (ofSql "" 2 none).IsFresh ∧ 1 ≤ (ofSql "" 2 none).count ∧ (noteSchema.size : Int) ≤ (ofSql "" 2 none).count ∧
      ((ofSql "" 2 none).write (note "a") noteSchema (.table noteTypes)).1.isComplete = true ∧
      ((ofSql "" 2 none).write (note "a") noteSchema (.value (.list []))).1.isComplete = false := by
  have hs : (ofSql "" 2 none).IsFresh := .inl ⟨"", 2, none, rfl⟩
  have hcount : 1 ≤ (ofSql "" 2 none).count := by decide
  have hsize : (noteSchema.size : Int) ≤ (ofSql "" 2 none).count := by decide
  have hwritten := write_guards_execution (note "a") (.table noteTypes) hs hcount hsize
  have hrefused := write_guards_execution (note "a") (.value (.list [])) hs hcount hsize
  exact ⟨hs, hcount, hsize, (hwritten.2 rfl rfl).1, (hrefused.1 _ rfl).1⟩

end Statement

end TypedRows
