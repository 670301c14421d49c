import TypedRows.Proofs.Record.Checking
import TypedRows.Proofs.Record.FixedPoint
import TypedRows.Proofs.Schema.Acceptance
/-!
# A builder as the log of its sets

A builder is given values by name and is asked for records in between. A set of a name that the schema does not have
fails and leaves the builder as it is, and so does a build, whether it fails or not. What a builder holds is therefore
told by the log of the sets that succeeded (`RecordBuilder.Reflects`): `Reflects.perform` follows one call,
`Reflects.run` any number of them. A build makes what every table makes in which each field has the value of its last
set (`Reflects.build`). The order in which different fields were set cannot be seen (`Alike.run`).

Main statement: `RecordBuilder.run_keepsLast`, for every sequence of calls on a new builder.
-/

namespace TypedRows

/-! ## Tables of the same values -/

/-- Tables of known names that give the same values make the same record, or fail alike. -/
theorem Record.ofEntries_congr {schema : Schema} {given given' : List (String × Cell)}
    (hget : ∀ name, Entries.get? given name = Entries.get? given' name) (hknown : AllKnown schema given)
    (hknown' : AllKnown schema given') : Record.ofEntries schema given = Record.ofEntries schema given' := by
  have hchecks : Field.checkGiven given = Field.checkGiven given' := by
    funext f
    rw [Field.checkGiven, Field.checkGiven, hget]
  have hall : checkAll given schema.fields = checkAll given' schema.fields := by
    rw [checkAll_eq_mapM, checkAll_eq_mapM, hchecks]
  cases hrun : checkAll given' schema.fields with
  | error e => rw [ofEntries_of_error hknown (hall.trans hrun), ofEntries_of_error hknown' hrun]
  | ok values =>
    obtain ⟨r, hr, hschema, hvalues⟩ := ofEntries_of_checkAll (filter_eq_nil_of_allKnown hknown) (hall.trans hrun)
    obtain ⟨r', hr', hschema', hvalues'⟩ := ofEntries_of_checkAll (filter_eq_nil_of_allKnown hknown') hrun
    rw [hr, hr', eq_of_values (hschema.trans hschema'.symm) (hvalues.trans hvalues'.symm)]

namespace RecordBuilder

/-! ## Calls -/

inductive Call where
  | set (name : String) (value : Cell)
  | build

inductive Reply where
  | done
  | made (r : Record)

/-- The builder after a call, and what the call returns. -/
def perform (b : RecordBuilder) : Call → RecordBuilder × Except Error Reply
  | .set name value =>
    match b.set name value with
    | .ok next => (next, .ok .done)
    | .error e => (b, .error e)
  | .build => (b, b.build.map .made)

structure Event where
  call : Call
  outcome : Except Error Reply

/-- The builder after calls one after another, with the history of the calls. A call that fails does not end the
sequence. -/
def run (b : RecordBuilder) : List Call → RecordBuilder × List Event
  | [] => (b, [])
  | c :: calls =>
    let next := b.perform c
    let last := next.1.run calls
    (last.1, ⟨c, next.2⟩ :: last.2)

theorem run_calls (b : RecordBuilder) (calls : List Call) : (b.run calls).2.map Event.call = calls := by
  induction calls generalizing b with
  | nil => rfl
  | cons c calls ih => rw [run, List.map_cons, ih]

/-- The history of the first calls is the beginning of the history. -/
theorem take_run (b : RecordBuilder) (calls : List Call) (i : Nat) :
    (b.run calls).2.take i = (b.run (calls.take i)).2 := by
  induction calls generalizing b i with
  | nil => simp [run]
  | cons c calls ih =>
    cases i with
    | zero => rfl
    | succ i => rw [run, List.take_succ_cons, List.take_succ_cons, run, ih]

/-- A call finds the builder as the calls before it have left it. -/
theorem getElem?_run (b : RecordBuilder) (calls : List Call) (i : Nat) :
    (b.run calls).2[i]? = calls[i]?.map fun c => ⟨c, ((b.run (calls.take i)).1.perform c).2⟩ := by
  induction calls generalizing b i with
  | nil => simp [run]
  | cons c calls ih =>
    cases i with
    | zero => rfl
    | succ i =>
      have hnext := ih (b.perform c).1 i
      simpa [run] using hnext

/-- **A set succeeds if the schema has the name**, and otherwise names it in its failure. -/
theorem set_eq (b : RecordBuilder) (name : String) (value : Cell) :
    b.set name value =
      if b.schema.has name then .ok ⟨b.schema, Entries.set b.given name value⟩
      else .error (.mismatch (.noSuchField name b.schema.name)) := by
  by_cases h : name ∈ b.schema.names
  · rw [set_of_has h, if_pos (by simpa [Schema.has] using h)]
  · have hindex : b.schema.index name = .error (.mismatch (.noSuchField name b.schema.name)) :=
      Schema.index_eq_error_iff.2 ⟨h, rfl⟩
    rw [set, hindex, if_neg (by simpa [Schema.has] using h)]
    rfl

theorem perform_set_of_has {b : RecordBuilder} {name : String} (h : b.schema.has name = true) (value : Cell) :
    b.perform (.set name value) = (⟨b.schema, Entries.set b.given name value⟩, .ok .done) := by
  rw [perform, set_eq, if_pos h]

theorem perform_set_of_not_has {b : RecordBuilder} {name : String} (h : b.schema.has name = false) (value : Cell) :
    b.perform (.set name value) = (b, .error (.mismatch (.noSuchField name b.schema.name))) := by
  rw [perform, set_eq, if_neg (by simp [h])]

theorem schema_perform (b : RecordBuilder) (c : Call) : (b.perform c).1.schema = b.schema := by
  cases c with
  | build => rfl
  | set name value =>
    cases hhas : b.schema.has name with
    | true => rw [perform_set_of_has hhas]
    | false => rw [perform_set_of_not_has hhas]

/-- The outcome of a set depends on the schema alone. -/
theorem outcome_set (b : RecordBuilder) (name : String) (value : Cell) :
    (b.perform (.set name value)).2 =
      if b.schema.has name then .ok .done else .error (.mismatch (.noSuchField name b.schema.name)) := by
  cases hhas : b.schema.has name with
  | true => rw [perform_set_of_has hhas, if_pos rfl]
  | false => rw [perform_set_of_not_has hhas, if_neg Bool.false_ne_true]

/-- A set that succeeds changes the value under its name, and no other. -/
theorem get?_given_set (b : RecordBuilder) (name : String) (value : Cell) (other : String) :
    Entries.get? (b.perform (.set name value)).1.given other =
      if b.schema.has name ∧ name = other then some value else Entries.get? b.given other := by
  cases hhas : b.schema.has name with
  | true => simp [perform_set_of_has hhas, Entries.get?_set]
  | false => simp [perform_set_of_not_has hhas]

/-! ## The log -/

/-- What an event adds to the log: the name and the value of a set that succeeded. -/
def Event.entry? (e : Event) : Option (String × Cell) :=
  match e.call, e.outcome with
  | .set name value, .ok _ => some (name, value)
  | _, _ => none

/-- The sets of a history that succeeded. -/
def log (history : List Event) : List (String × Cell) := history.filterMap Event.entry?

theorem log_append_singleton (history : List Event) (e : Event) :
    log (history ++ [e]) = log history ++ e.entry?.toList := by
  rw [log, List.filterMap_append, ← log]
  cases h : e.entry? <;> simp [h]

/-- The value of the last set of a name that succeeded, or null if there was none. -/
def lastSet (history : List Event) (name : String) : Cell := (Entries.lastValue? (log history) name).getD .null

/-- The table has the names of the schema and no others, each with the value of its last set. -/
def Tabulates (schema : Schema) (history : List Event) (table : List (String × Cell)) : Prop :=
  ∀ name, Entries.get? table name = if schema.has name then some (lastSet history name) else none

/-- The builder makes records of the schema, and holds under each name what was last set. -/
structure Reflects (b : RecordBuilder) (schema : Schema) (history : List Event) : Prop where
  schema : b.schema = schema
  given : ∀ name, Entries.get? b.given name = Entries.lastValue? (log history) name

theorem Tabulates.allKnown {schema : Schema} {history : List Event} {table : List (String × Cell)}
    (h : Tabulates schema history table) : Record.AllKnown schema table := by
  intro name hname
  cases hhas : schema.has name with
  | true => rfl
  | false =>
    have hget := h name
    rw [hhas, if_neg Bool.false_ne_true, Entries.get?_eq_none_iff] at hget
    exact absurd hname hget

theorem reflects_ofSchema (schema : Schema) : (ofSchema schema).Reflects schema [] := ⟨rfl, fun _ => rfl⟩

namespace Reflects

variable {b : RecordBuilder} {schema : Schema} {history : List Event}

/-- **A call keeps the builder in step with its history.** -/
theorem perform (h : b.Reflects schema history) (c : Call) :
    (b.perform c).1.Reflects schema (history ++ [⟨c, (b.perform c).2⟩]) := by
  refine ⟨(b.schema_perform c).trans h.schema, fun other => ?_⟩
  rw [log_append_singleton, Entries.lastValue?_append, ← h.given]
  cases c with
  | build => rfl
  | set name value =>
    rw [get?_given_set, outcome_set]
    cases b.schema.has name with
    | true =>
      have hentry : Event.entry? ⟨.set name value, .ok .done⟩ = some (name, value) := rfl
      rw [if_pos rfl, hentry, Option.toList_some, Entries.lastValue?_cons]
      by_cases hother : name = other <;> simp [hother, Entries.lastValue?]
    | false => simp [Event.entry?, Entries.lastValue?]

theorem run (h : b.Reflects schema history) (calls : List Call) :
    (b.run calls).1.Reflects schema (history ++ (b.run calls).2) := by
  induction calls generalizing b history with
  | nil => rwa [RecordBuilder.run, List.append_nil]
  | cons c calls ih =>
    have hnext := ih (h.perform c)
    rwa [List.append_assoc, List.singleton_append] at hnext

/-- The values that the builder collects are those of the last sets. -/
theorem tabulates (h : b.Reflects schema history) :
    Tabulates schema history (schema.names.map fun name => (name, b.valueOf name)) := by
  intro name
  rw [Entries.get?_map_mk, valueOf, h.given]
  rfl

/-- **A build makes what every table of the last sets makes**, be it a record or a failure. -/
theorem build (h : b.Reflects schema history) {table : List (String × Cell)} (htable : Tabulates schema history table) :
    b.build = Record.ofEntries schema table := by
  have hown := h.tabulates
  rw [RecordBuilder.build, h.schema]
  exact Record.ofEntries_congr (fun name => (hown name).trans (htable name).symm) hown.allKnown htable.allKnown

end Reflects

/-! ## What can be seen of a builder -/

/-- Builders of the same schema that hold the same values, in whatever order they were set. -/
structure Alike (b b' : RecordBuilder) : Prop where
  schema : b.schema = b'.schema
  given : ∀ name, Entries.get? b.given name = Entries.get? b'.given name

namespace Alike

variable {b b' : RecordBuilder}

theorem build (h : b.Alike b') : b.build = b'.build := by
  have hvalue : b.valueOf = b'.valueOf := by
    funext name
    rw [valueOf, valueOf, h.given]
  rw [RecordBuilder.build, RecordBuilder.build, h.schema, hvalue]

theorem perform (h : b.Alike b') (c : Call) :
    (b.perform c).2 = (b'.perform c).2 ∧ (b.perform c).1.Alike (b'.perform c).1 := by
  refine ⟨?_, by rw [schema_perform, schema_perform, h.schema], fun other => ?_⟩
  · cases c with
    | build => exact congrArg (Except.map Reply.made) h.build
    | set name value => rw [outcome_set, outcome_set, h.schema]
  · cases c with
    | build => exact h.given other
    | set name value => rw [get?_given_set, get?_given_set, h.schema, h.given]

/-- **Builders that are alike answer every sequence of calls alike.** -/
theorem run (h : b.Alike b') (calls : List Call) : (b.run calls).2 = (b'.run calls).2 := by
  induction calls generalizing b b' with
  | nil => rfl
  | cons c calls ih =>
    obtain ⟨houtcome, hnext⟩ := h.perform c
    rw [RecordBuilder.run, RecordBuilder.run, houtcome, ih hnext]

end Alike

/-- Different fields can be set in either order: the outcomes are the same, and the builders are alike. -/
theorem alike_of_swap (b : RecordBuilder) {name name' : String} (hne : name ≠ name') (value value' : Cell) :
    (b.run [.set name value, .set name' value']).2 = (b.run [.set name' value', .set name value]).2.reverse ∧
      (b.run [.set name value, .set name' value']).1.Alike (b.run [.set name' value', .set name value]).1 := by
  refine ⟨?_, ?_, fun other => ?_⟩
  · simp only [run, outcome_set, schema_perform]
    rfl
  · simp only [run, schema_perform]
  · simp only [run, get?_given_set, schema_perform]
    by_cases hother : name = other
    · have hother' : name' ≠ other := fun h => hne (hother.trans h.symm)
      simp only [hother', and_false, if_false]
    · simp only [hother, and_false, if_false]

/-! ## Any calls -/

/-- What an event adds to the log is what the call has done to the builder. -/
theorem setAll_entry (b : RecordBuilder) (c : Call) :
    b.setAll (Event.entry? ⟨c, (b.perform c).2⟩).toList = .ok (b.perform c).1 := by
  cases c with
  | build => rfl
  | set name value =>
    cases hhas : b.schema.has name with
    | true =>
      have hset : b.set name value = .ok ⟨b.schema, Entries.set b.given name value⟩ := by rw [set_eq, if_pos hhas]
      rw [perform_set_of_has hhas]
      show (b.set name value >>= pure) = _
      rw [hset]
      rfl
    | false =>
      rw [perform_set_of_not_has hhas]
      rfl

/-- **The sets that succeeded make the builder alone.** -/
theorem setAll_log_run {first b : RecordBuilder} {history : List Event} (h : first.setAll (log history) = .ok b)
    (calls : List Call) : first.setAll (log (history ++ (b.run calls).2)) = .ok (b.run calls).1 := by
  induction calls generalizing b history with
  | nil => rwa [run, List.append_nil]
  | cons c calls ih =>
    have hstep : first.setAll (log (history ++ [⟨c, (b.perform c).2⟩])) = .ok (b.perform c).1 := by
      rw [log_append_singleton, setAll, List.foldlM_append, ← setAll, h]
      exact b.setAll_entry c
    have hnext := ih hstep
    rwa [List.append_assoc, List.singleton_append] at hnext

/-- What a call is to return after a history: a set succeeds if the schema has the name, and a build makes what a table
of the last sets makes. -/
def Event.Answers (schema : Schema) (history : List Event) (e : Event) : Prop :=
  match e.call with
  | .set name _ =>
    e.outcome = if schema.has name then .ok .done else .error (.mismatch (.noSuchField name schema.name))
  | .build =>
    (∃ table, Tabulates schema history table) ∧
      ∀ table, Tabulates schema history table → e.outcome = (Record.ofEntries schema table).map .made

/-- **Every call on a builder in step with its history returns what it is to return.** -/
theorem Reflects.answers {b : RecordBuilder} {schema : Schema} {history : List Event} (h : b.Reflects schema history)
    (c : Call) : Event.Answers schema history ⟨c, (b.perform c).2⟩ := by
  cases c with
  | set name value =>
    show (b.perform (.set name value)).2 = _
    rw [outcome_set, h.schema]
  | build => exact ⟨⟨_, h.tabulates⟩, fun table htable => congrArg (Except.map Reply.made) (h.build htable)⟩

/-- The builder keeps the last set of each field and nothing else. -/
structure KeepsLast (schema : Schema) (history : List Event) (b : RecordBuilder) : Prop where
  answers : ∀ (i : Nat) (e : Event), history[i]? = some e → e.Answers schema (history.take i)
  /-- Neither the sets that failed nor the builds have left a trace. -/
  traceless : (ofSchema schema).setAll (log history) = .ok b
  refuses : ∀ name value, schema.has name = false →
    b.perform (.set name value) = (b, .error (.mismatch (.noSuchField name schema.name)))
  builds : (b.perform .build).1 = b
  /-- Different fields can be set in either order, and no later call tells in which they were. -/
  commutes : ∀ name name' value value', name ≠ name' →
    (b.run [.set name value, .set name' value']).2 = (b.run [.set name' value', .set name value]).2.reverse ∧
      ∀ calls, ((b.run [.set name value, .set name' value']).1.run calls).2 =
        ((b.run [.set name' value', .set name value]).1.run calls).2

/-- **A builder keeps the last set of each field**, whatever calls it gets: every build makes what a table makes in
which each field has the value of its last set that succeeded before the build, or null. -/
theorem run_keepsLast (schema : Schema) (calls : List Call) :
    ((ofSchema schema).run calls).2.map Event.call = calls ∧
      KeepsLast schema ((ofSchema schema).run calls).2 ((ofSchema schema).run calls).1 := by
  have hreflects : ∀ calls, ((ofSchema schema).run calls).1.Reflects schema ((ofSchema schema).run calls).2 :=
    (reflects_ofSchema schema).run
  have hnew : (ofSchema schema).setAll (log []) = .ok (ofSchema schema) := rfl
  refine ⟨run_calls _ calls, ?_, setAll_log_run hnew calls, ?_, rfl, ?_⟩
  · intro i e he
    rw [getElem?_run, Option.map_eq_some_iff] at he
    obtain ⟨c, -, rfl⟩ := he
    rw [take_run]
    exact (hreflects (calls.take i)).answers c
  · intro name value hname
    have hschema := (hreflects calls).schema
    have hnot : ((ofSchema schema).run calls).1.schema.has name = false := by rwa [hschema]
    rw [perform_set_of_not_has hnot, hschema]
  · intro name name' value value' hne
    obtain ⟨houtcomes, halike⟩ := alike_of_swap ((ofSchema schema).run calls).1 hne value value'
    exact ⟨houtcomes, halike.run⟩

/-- A value that no build took is replaced, though another set has failed in between. -/
example :
    let calls : List Call := [.set "id" (.text "7"), .build, .set "it" (.int 7), .set "id" (.int 7), .build]
    ((ofSchema noteSchema).run calls).2.map (fun e => e.outcome matches .ok _) = [true, false, false, true, true] := by
  decide

end RecordBuilder

end TypedRows
