import Mathlib.Data.List.DropRight
import TypedRows.Proofs.Statement.Writing
/-!
# A statement as the log of its calls

A statement keeps what was set twice: in the order of the calls (`bindings`) and by position (`slots`). The two
are in step (`Statement.InStep`) if a slot holds the value of the last binding at its position, and nothing if
there is none. `Statement.perform_cases` says what one call can do to a statement, `InStep.perform` that it
leaves the two in step, and `InStep.run` follows a sequence of calls of any length, in which calls may fail.

Main statement: `Statement.run_refinesLog`, for every sequence of calls on a new statement.
-/

namespace TypedRows

namespace Statement

/-! ## Calls -/

inductive Call where
  | set (setter : Setter) (index : Int) (value : Cell)
  | clear
  | parameters
  /-- The execution on a driver that gives the answer. -/
  | execute (answer : Except Fault Cell)

inductive Reply where
  | done
  | values (parameters : List Cell)
  | answered (answer : Cell)

/-- The statement after a call, and what the call returns. -/
def perform (s : Statement) : Call → Statement × Except Error Reply
  | .set setter index value =>
    match s.set setter index value with
    | .ok next => (next, .ok .done)
    | .error e => (s, .error e)
  | .clear => (s.clear, .ok .done)
  | .parameters => (s, s.parameters.map .values)
  | .execute answer => (s, (s.execute answer).2.map .answered)

structure Event where
  call : Call
  outcome : Except Error Reply

/-- The statement after calls one after another, with the history of the calls. A call that fails does not
end the sequence. -/
def run (s : Statement) : List Call → Statement × List Event
  | [] => (s, [])
  | c :: calls =>
    let next := s.perform c
    let last := next.1.run calls
    (last.1, ⟨c, next.2⟩ :: last.2)

/-! ## The log -/

def Call.isClear : Call → Bool
  | .clear => true
  | _ => false

/-- What an event adds to the log: the binding of a setter that succeeded. -/
def Event.binding? (e : Event) : Option Binding :=
  match e.call, e.outcome with
  | .set setter index value, .ok _ => (setter.convert value).toOption.map fun p => ⟨setter, index, p⟩
  | _, _ => none

/-- The events after the last call that cleared the statement. -/
def sinceClear (events : List Event) : List Event := events.rtakeWhile fun e => !e.call.isClear

/-- The log after an event. -/
def Event.addTo (log : List Binding) (e : Event) : List Binding :=
  if e.call.isClear then [] else log ++ e.binding?.toList

/-- The log of a history has one entry for each setter that succeeded after the last clearing. -/
theorem foldl_addTo (events : List Event) :
    events.foldl Event.addTo [] = (sinceClear events).filterMap Event.binding? := by
  -- From the right, since the log ends with the last event.
  induction events using List.reverseRecOn with
  | nil => rfl
  | append_singleton events e ih =>
    rw [List.foldl_append, List.foldl_cons, List.foldl_nil, ih, Event.addTo, sinceClear, sinceClear,
      List.rtakeWhile_concat]
    cases he : e.call.isClear with
    | true => simp
    | false => cases hb : e.binding? <;> simp [hb]

/-- The binding is the last one at a position. -/
def LastAt (bindings : List Binding) (position : Int) (b : Binding) : Prop :=
  ∃ before after, bindings = before ++ b :: after ∧ b.index = position ∧ ∀ later ∈ after, later.index ≠ position

theorem lastAt_append_self (bindings : List Binding) (b : Binding) : LastAt (bindings ++ [b]) b.index b :=
  ⟨bindings, [], rfl, rfl, by simp⟩

theorem LastAt.append_of_ne {bindings : List Binding} {position : Int} {b b' : Binding}
    (h : LastAt bindings position b) (hne : b'.index ≠ position) : LastAt (bindings ++ [b']) position b := by
  obtain ⟨before, after, rfl, hindex, hafter⟩ := h
  refine ⟨before, after ++ [b'], by simp, hindex, fun later hlater => ?_⟩
  rcases List.mem_append.1 hlater with hlater | hlater
  · exact hafter later hlater
  · rwa [List.mem_singleton.1 hlater]

theorem LastAt.mem {bindings : List Binding} {position : Int} {b : Binding} (h : LastAt bindings position b) :
    b ∈ bindings := by
  obtain ⟨before, after, rfl, -⟩ := h
  simp

/-! ## One call -/

/-- A setter succeeds if its value can be converted and its position exists, and then appends one binding. -/
theorem set_eq_ok_iff {s next : Statement} {setter : Setter} {index : Int} {value : Cell} :
    s.set setter index value = .ok next ↔
      ∃ p, setter.convert value = .ok p ∧ 1 ≤ index ∧ index ≤ s.count ∧ next = s.append [⟨setter, index, p⟩] := by
  cases hp : setter.convert value with
  | error e =>
    have hset : s.set setter index value = .error e := by rw [set, hp]; rfl
    simp [hset]
  | ok p =>
    have hset : s.set setter index value = s.bind ⟨setter, index, p⟩ := by rw [set, hp]; rfl
    rw [hset]
    by_cases hlo : 1 ≤ index
    · rw [s.bind_eq (b := ⟨setter, index, p⟩) hlo]
      by_cases hhi : index ≤ s.count <;> simp [hlo, hhi, eq_comm]
    · simp [bind, hlo]

/-- **What a call can do**: leave the statement as it is, clear it, or append the binding of a setter that
succeeded. -/
theorem perform_cases (s : Statement) (c : Call) :
    (c.isClear = false ∧ (s.perform c).1 = s ∧ Event.binding? ⟨c, (s.perform c).2⟩ = none) ∨
      (c.isClear = true ∧ (s.perform c).1 = s.clear) ∨
      (c.isClear = false ∧ ∃ b, 1 ≤ b.index ∧ b.index ≤ s.count ∧ (s.perform c).1 = s.append [b] ∧
        Event.binding? ⟨c, (s.perform c).2⟩ = some b) := by
  cases c with
  | clear => exact .inr (.inl ⟨rfl, rfl⟩)
  | parameters | execute answer => exact .inl ⟨rfl, rfl, rfl⟩
  | set setter index value =>
    rw [perform]
    cases hset : s.set setter index value with
    | error e => exact .inl ⟨rfl, rfl, rfl⟩
    | ok next =>
      obtain ⟨p, hp, hlo, hhi, rfl⟩ := set_eq_ok_iff.1 hset
      exact .inr (.inr ⟨rfl, ⟨setter, index, p⟩, hlo, hhi, rfl, by simp [Event.binding?, hp, Except.toOption]⟩)

/-- A setter succeeds if its value can be converted and its position exists. -/
theorem perform_set_ok_iff (s : Statement) (setter : Setter) (index : Int) (value : Cell) :
    (∃ reply, (s.perform (.set setter index value)).2 = .ok reply) ↔
      (∃ p, setter.convert value = .ok p) ∧ 1 ≤ index ∧ index ≤ s.count := by
  have hset : (∃ reply, (s.perform (.set setter index value)).2 = .ok reply) ↔
      ∃ next, s.set setter index value = .ok next := by
    rw [perform]
    cases s.set setter index value <;> simp
  simp [hset, set_eq_ok_iff]

/-- A call that fails changes nothing. -/
theorem perform_of_error {s : Statement} {c : Call} {e : Error} (h : (s.perform c).2 = .error e) :
    (s.perform c).1 = s := by
  cases c with
  | set setter index value =>
    rw [perform] at h ⊢
    cases hs : s.set setter index value with
    | ok next =>
      rw [hs] at h
      cases h
    | error _ => rfl
  | clear => cases h
  | parameters | execute answer => rfl

/-- No call changes the text, the number of parameters or the dialect. -/
theorem perform_frame (s : Statement) (c : Call) :
    (s.perform c).1.sql = s.sql ∧ (s.perform c).1.count = s.count ∧ (s.perform c).1.dialect = s.dialect := by
  rcases s.perform_cases c with ⟨-, h, -⟩ | ⟨-, h⟩ | ⟨-, b, -, -, h, -⟩ <;> rw [h] <;> exact ⟨rfl, rfl, rfl⟩

theorem bindings_perform (s : Statement) (c : Call) :
    (s.perform c).1.bindings = Event.addTo s.bindings ⟨c, (s.perform c).2⟩ := by
  rw [Event.addTo]
  rcases s.perform_cases c with ⟨hc, h, hb⟩ | ⟨hc, h⟩ | ⟨hc, b, -, -, h, hb⟩
  · rw [h, hb, hc]
    simp
  · rw [h, hc]
    rfl
  · rw [h, hb, hc]
    rfl

/-! ## Positions without a value -/

theorem mem_unbound_iff {s : Statement} {p : Nat} : p ∈ s.unbound ↔ ∃ i, s.slots[i]? = some none ∧ p = i + 1 := by
  rw [unbound, List.mem_map]
  constructor
  · rintro ⟨i, hi, rfl⟩
    rw [List.mem_filter, List.mem_range] at hi
    obtain ⟨hlt, hnone⟩ := hi
    rw [List.getElem?_eq_getElem hlt, Option.join_some, Option.isNone_iff_eq_none] at hnone
    exact ⟨i, by rw [List.getElem?_eq_getElem hlt, hnone], rfl⟩
  · rintro ⟨i, hslot, rfl⟩
    refine ⟨i, List.mem_filter.2 ⟨List.mem_range.2 (List.getElem?_eq_some_iff.1 hslot).1, ?_⟩, rfl⟩
    rw [hslot]
    rfl

theorem pairwise_unbound (s : Statement) : s.unbound.Pairwise (· < ·) :=
  ((List.pairwise_lt_range.filter _).map (· + 1)) fun _ _ h => Nat.succ_lt_succ h

theorem isComplete_iff_unbound {s : Statement} : s.isComplete = true ↔ s.unbound = [] := by
  rw [isComplete, List.all_eq_true, List.eq_nil_iff_forall_not_mem]
  constructor
  · intro h p hp
    obtain ⟨i, hslot, -⟩ := mem_unbound_iff.1 hp
    cases h none (List.mem_of_getElem? hslot)
  · intro h slot hslot
    obtain ⟨i, hi⟩ := List.mem_iff_getElem?.1 hslot
    cases slot with
    | some v => rfl
    | none => exact absurd (mem_unbound_iff.2 ⟨i, hi, rfl⟩) (h (i + 1))

theorem exists_slots_of_isComplete {s : Statement} (h : s.isComplete = true) :
    ∃ values : List Cell, s.slots = values.map some := by
  rw [isComplete] at h
  generalize s.slots = slots at h ⊢
  induction slots with
  | nil => exact ⟨[], rfl⟩
  | cons slot slots ih =>
    rw [List.all_cons, Bool.and_eq_true] at h
    obtain ⟨values, rfl⟩ := ih h.2
    obtain ⟨v, rfl⟩ := Option.isSome_iff_exists.1 h.1
    exact ⟨v :: values, rfl⟩

/-- A statement has parameters if it is complete. -/
theorem parameters_ok_iff {s : Statement} : (∃ values, s.parameters = .ok values) ↔ s.isComplete = true := by
  rw [isComplete_iff_unbound, parameters]
  cases s.unbound with
  | nil => simp
  | cons first rest => simp [failValue]

/-- The failure of a statement that lacks values names the positions without a value. -/
theorem parameters_of_not_complete {s : Statement} (h : s.isComplete = false) :
    ∃ first rest, s.unbound = first :: rest ∧ s.parameters = failValue (.unbound first rest) := by
  cases hunbound : s.unbound with
  | nil => exact absurd (isComplete_iff_unbound.2 hunbound) (by simp [h])
  | cons first rest => exact ⟨first, rest, rfl, by rw [parameters, hunbound]⟩

/-! ## What is sent -/

/-- The cell is what is sent to a driver of the dialect for a value. -/
inductive SentAs (dialect : Option String) : Cell → Cell → Prop where
  | blob (b : Blob) : SentAs dialect (.blob b) (.bytes .frozen b.data)
  | date (d : Date) (h : dialect = some "sqlite") : SentAs dialect (.date d) (.text d.isoText)
  | time (t : TimeOfDay) (offset : Option Int) (h : dialect = some "sqlite") :
    SentAs dialect (.time t offset) (.text (t.isoText offset))
  | datetime (d : DateTime) (offset : Option Int) (h : dialect = some "sqlite") :
    SentAs dialect (.datetime d offset) (.text (d.isoText "T" offset))
  /-- Every other value is sent as it is. -/
  | same (value : Cell) (notBlob : ∀ b, value ≠ .blob b)
    (notTemporal : dialect = some "sqlite" →
      (∀ d, value ≠ .date d) ∧ (∀ t offset, value ≠ .time t offset) ∧ ∀ d offset, value ≠ .datetime d offset) :
    SentAs dialect value value

theorem sentAs_sent (s : Statement) (value : Cell) : SentAs s.dialect value (s.sent value) := by
  by_cases hsqlite : s.dialect = some "sqlite"
  · have hname : s.dialect = some Dialect.sqlite.name := hsqlite
    cases value with
    | blob b => exact .blob b
    | date d => simpa only [sent, if_pos hname, temporalText] using .date d hsqlite
    | time t offset => simpa only [sent, if_pos hname, temporalText] using .time t offset hsqlite
    | datetime d offset => simpa only [sent, if_pos hname, temporalText] using .datetime d offset hsqlite
    | _ => simpa only [sent, if_pos hname, temporalText] using .same _ (by simp) (by simp)
  · have hname : s.dialect ≠ some Dialect.sqlite.name := hsqlite
    cases value with
    | blob b => exact .blob b
    | _ => simpa only [sent, if_neg hname] using .same _ (by simp) fun h => absurd h hsqlite

/-- The parameter at a position is what is sent for the value at the position. -/
theorem getElem?_parameters {s : Statement} {values : List Cell} {i : Nat} {v : Cell}
    (hvalues : s.parameters = .ok values) (hslot : s.slots[i]? = some (some v)) : values[i]? = some (s.sent v) := by
  obtain ⟨stored, hslots⟩ := exists_slots_of_isComplete (parameters_ok_iff.1 ⟨values, hvalues⟩)
  cases hvalues.symm.trans (parameters_of_slots hslots)
  rw [hslots, List.getElem?_map, Option.map_eq_some_iff] at hslot
  obtain ⟨w, hw, hwv⟩ := hslot
  cases hwv
  rw [List.getElem?_map, hw, Option.map_some]

/-- The parameters depend on what is sent for each position, and on nothing else. -/
theorem parameters_congr {s s' : Statement}
    (h : s.slots.map (Option.map s.sent) = s'.slots.map (Option.map s'.sent)) : s.parameters = s'.parameters := by
  have hvalues : ∀ s : Statement, (s.slots.filterMap id).map s.sent = (s.slots.map (Option.map s.sent)).filterMap id := by
    intro s
    rw [List.filterMap_map, List.map_filterMap]
    rfl
  have hunbound : ∀ s : Statement, s.unbound =
      ((List.range (s.slots.map (Option.map s.sent)).length).filter fun i =>
        ((s.slots.map (Option.map s.sent))[i]?.join).isNone).map (· + 1) := by
    intro s
    rw [unbound, List.length_map]
    congr 2
    funext i
    rw [List.getElem?_map]
    cases s.slots[i]? with
    | none => rfl
    | some slot => cases slot <;> rfl
  rw [parameters, parameters, hvalues, hvalues, hunbound, hunbound, h]

/-! ## The invariant -/

/-- Log and slots agree: a slot holds the value of the last binding at its position. -/
structure InStep (s : Statement) : Prop where
  size : s.slots.length = s.count.toNat
  filled : ∀ (i : Nat) (v : Cell), s.slots[i]? = some (some v) →
    ∃ b, LastAt s.bindings ((i : Int) + 1) b ∧ b.parameter.value = v
  empty : ∀ i : Nat, s.slots[i]? = some none → ∀ b ∈ s.bindings, b.index ≠ (i : Int) + 1

theorem inStep_clear (s : Statement) : s.clear.InStep where
  size := by simp [clear, emptySlots]
  filled i v h := by
    rw [clear, emptySlots, List.getElem?_replicate] at h
    split at h <;> cases h
  empty i _ b hb := by cases hb

/-- A new statement is like one that was just cleared. -/
theorem ofSql_eq_clear (sql : String) (count : Int) (dialect : Option String) :
    ofSql sql count dialect = (ofSql sql count dialect).clear := rfl

theorem inStep_ofSql (sql : String) (count : Int) (dialect : Option String) :
    (ofSql sql count dialect).InStep := by
  rw [ofSql_eq_clear]
  exact inStep_clear _

namespace InStep

variable {s : Statement}

theorem append (h : s.InStep) {b : Binding} (hlo : 1 ≤ b.index) (hhi : b.index ≤ s.count) :
    (s.append [b]).InStep := by
  have hsize := h.size
  have hslots : (s.append [b]).slots = s.slots.set (b.index - 1).toNat (some b.parameter.value) := rfl
  have hlog : (s.append [b]).bindings = s.bindings ++ [b] := rfl
  refine ⟨by rw [hslots, List.length_set]; exact hsize, fun i v hi => ?_, fun i hi b' hb' => ?_⟩
  · rw [hslots, List.getElem?_set] at hi
    rw [hlog]
    split at hi
    · rename_i heq
      have hindex : b.index = i + 1 := by omega
      rw [if_pos (by omega)] at hi
      exact ⟨b, hindex ▸ lastAt_append_self s.bindings b, by simpa using hi⟩
    · rename_i hne
      obtain ⟨b', hlast, hvalue⟩ := h.filled i v hi
      exact ⟨b', hlast.append_of_ne (by omega), hvalue⟩
  · rw [hslots, List.getElem?_set] at hi
    rw [hlog] at hb'
    split at hi
    · split at hi <;> cases hi
    · rename_i hne
      rcases List.mem_append.1 hb' with hb' | hb'
      · exact h.empty i hi b' hb'
      · rw [List.mem_singleton.1 hb']
        omega

theorem perform (h : s.InStep) (c : Call) : (s.perform c).1.InStep := by
  rcases s.perform_cases c with ⟨-, hs, -⟩ | ⟨-, hs⟩ | ⟨-, b, hlo, hhi, hs, -⟩
  · rwa [hs]
  · rw [hs]
    exact inStep_clear s
  · rw [hs]
    exact h.append hlo hhi

theorem run (h : s.InStep) (calls : List Call) : (s.run calls).1.InStep := by
  induction calls generalizing s with
  | nil => exact h
  | cons c calls ih => exact ih (h.perform c)

/-! ## What can be read off a statement in step -/

theorem slot_eq_none_iff (h : s.InStep) {i : Nat} (hi : i < s.count.toNat) :
    s.slots[i]? = some none ↔ ∀ b ∈ s.bindings, b.index ≠ i + 1 := by
  refine ⟨h.empty i, fun hnone => ?_⟩
  have hlt : i < s.slots.length := by rw [h.size]; exact hi
  cases hslot : s.slots[i] with
  | none => rw [List.getElem?_eq_getElem hlt, hslot]
  | some v =>
    obtain ⟨b, hlast, -⟩ := h.filled i v (by rw [List.getElem?_eq_getElem hlt, hslot])
    obtain ⟨-, -, -, hindex, -⟩ := id hlast
    exact absurd hindex (hnone b hlast.mem)

/-- The positions without a value are those that do not occur in the log. -/
theorem mem_unbound_iff (h : s.InStep) {p : Nat} :
    p ∈ s.unbound ↔ 1 ≤ p ∧ (p : Int) ≤ s.count ∧ ∀ b ∈ s.bindings, b.index ≠ p := by
  rw [Statement.mem_unbound_iff]
  constructor
  · rintro ⟨i, hslot, rfl⟩
    have hi : i < s.count.toNat := h.size ▸ (List.getElem?_eq_some_iff.1 hslot).1
    refine ⟨by omega, by omega, fun b hb => ?_⟩
    have hne := h.empty i hslot b hb
    omega
  · rintro ⟨hlo, hhi, hnone⟩
    refine ⟨p - 1, (h.slot_eq_none_iff (by omega)).2 fun b hb => ?_, by omega⟩
    have hne := hnone b hb
    omega

/-- A statement is complete if every position occurs in the log. -/
theorem isComplete_iff (h : s.InStep) :
    s.isComplete = true ↔ ∀ p : Nat, 1 ≤ p → (p : Int) ≤ s.count → ∃ b ∈ s.bindings, b.index = p := by
  rw [isComplete_iff_unbound, List.eq_nil_iff_forall_not_mem]
  refine forall_congr' fun p => ?_
  rw [h.mem_unbound_iff]
  push Not
  rfl

/-- The parameters are the last values that were set, as they are sent. -/
theorem of_parameters (h : s.InStep) {values : List Cell} (hvalues : s.parameters = .ok values) :
    values.length = s.count.toNat ∧ ∀ (i : Nat) (v : Cell), values[i]? = some v →
      ∃ b, LastAt s.bindings ((i : Int) + 1) b ∧ SentAs s.dialect b.parameter.value v := by
  obtain ⟨stored, hslots⟩ := exists_slots_of_isComplete (parameters_ok_iff.1 ⟨values, hvalues⟩)
  cases hvalues.symm.trans (parameters_of_slots hslots)
  refine ⟨by rw [← h.size, hslots, List.length_map, List.length_map], fun i v hv => ?_⟩
  rw [List.getElem?_map, Option.map_eq_some_iff] at hv
  obtain ⟨w, hw, rfl⟩ := hv
  obtain ⟨b, hlast, rfl⟩ := h.filled i w (by rw [hslots, List.getElem?_map, hw]; rfl)
  exact ⟨b, hlast, sentAs_sent s _⟩

/-- The failure of a statement that lacks values names the positions that do not occur in the log, in
ascending order. -/
theorem missing (h : s.InStep) (hcomplete : s.isComplete = false) :
    ∃ first rest, s.parameters = failValue (.unbound first rest) ∧ (first :: rest).Pairwise (· < ·) ∧
      ∀ p : Nat, p ∈ first :: rest ↔ 1 ≤ p ∧ (p : Int) ≤ s.count ∧ ∀ b ∈ s.bindings, b.index ≠ p := by
  obtain ⟨first, rest, hunbound, hfails⟩ := parameters_of_not_complete hcomplete
  exact ⟨first, rest, hfails, hunbound ▸ s.pairwise_unbound, fun p => by rw [← hunbound, h.mem_unbound_iff]⟩

end InStep

/-! ## Runs -/

theorem run_frame (s : Statement) (calls : List Call) :
    (s.run calls).1.sql = s.sql ∧ (s.run calls).1.count = s.count ∧ (s.run calls).1.dialect = s.dialect := by
  induction calls generalizing s with
  | nil => exact ⟨rfl, rfl, rfl⟩
  | cons c calls ih =>
    obtain ⟨hsql, hcount, hdialect⟩ := s.perform_frame c
    obtain ⟨hsql', hcount', hdialect'⟩ := ih (s.perform c).1
    exact ⟨hsql'.trans hsql, hcount'.trans hcount, hdialect'.trans hdialect⟩

theorem run_calls (s : Statement) (calls : List Call) : (s.run calls).2.map Event.call = calls := by
  induction calls generalizing s with
  | nil => rfl
  | cons c calls ih => rw [run, List.map_cons, ih]

theorem bindings_run (s : Statement) (calls : List Call) :
    (s.run calls).1.bindings = (s.run calls).2.foldl Event.addTo s.bindings := by
  induction calls generalizing s with
  | nil => rfl
  | cons c calls ih =>
    have hnext := ih (s.perform c).1
    rw [bindings_perform] at hnext
    exact hnext

/-- The statement is what the history of its calls makes of one with `count` parameters. -/
structure RefinesLog (sql : String) (count : Int) (dialect : Option String) (events : List Event)
    (s : Statement) : Prop where
  frame : s.sql = sql ∧ s.count = count ∧ s.dialect = dialect
  log : s.bindings = (sinceClear events).filterMap Event.binding?
  /-- A setter succeeds if its value can be converted and its position exists. -/
  setters : ∀ setter index value, (∃ reply, (s.perform (.set setter index value)).2 = .ok reply) ↔
    (∃ p, setter.convert value = .ok p) ∧ 1 ≤ index ∧ index ≤ count
  failures : ∀ c e, (s.perform c).2 = .error e → (s.perform c).1 = s
  readings : (s.perform .parameters).1 = s ∧ ∀ answer, (s.perform (.execute answer)).1 = s
  complete : s.isComplete = true ↔ ∀ p : Nat, 1 ≤ p → (p : Int) ≤ count → ∃ b ∈ s.bindings, b.index = p
  succeeds : (∃ values, s.parameters = .ok values) ↔ s.isComplete = true
  /-- Each parameter is the last value that was set at its position, as it is sent. -/
  parameters : ∀ values, s.parameters = .ok values → values.length = count.toNat ∧
    ∀ (i : Nat) (v : Cell), values[i]? = some v →
      ∃ b, LastAt s.bindings ((i : Int) + 1) b ∧ SentAs dialect b.parameter.value v
  /-- The failure names the positions that do not occur in the log. -/
  missing : s.isComplete = false → ∃ first rest, s.parameters = failValue (.unbound first rest) ∧
    (first :: rest).Pairwise (· < ·) ∧
    ∀ p : Nat, p ∈ first :: rest ↔ 1 ≤ p ∧ (p : Int) ≤ count ∧ ∀ b ∈ s.bindings, b.index ≠ p

/-- **A statement refines the log of its calls**: after any calls on a new statement, it is determined by
the setters that succeeded since it was last cleared. -/
theorem run_refinesLog (sql : String) (count : Int) (dialect : Option String) (calls : List Call) :
    ((ofSql sql count dialect).run calls).2.map Event.call = calls ∧
      RefinesLog sql count dialect ((ofSql sql count dialect).run calls).2
        ((ofSql sql count dialect).run calls).1 := by
  have hstep := (inStep_ofSql sql count dialect).run calls
  obtain ⟨hsql, hcount, hdialect⟩ := (ofSql sql count dialect).run_frame calls
  have hlog := (ofSql sql count dialect).bindings_run calls
  refine ⟨run_calls _ calls, ?_⟩
  -- From here on nothing depends on how the statement came about.
  generalize ((ofSql sql count dialect).run calls).1 = s at *
  generalize ((ofSql sql count dialect).run calls).2 = events at *
  obtain rfl : s.count = count := hcount
  obtain rfl : s.dialect = dialect := hdialect
  exact {
    frame := ⟨hsql, rfl, rfl⟩
    log := hlog.trans (foldl_addTo events)
    setters := s.perform_set_ok_iff
    failures := fun _ _ => perform_of_error
    readings := ⟨rfl, fun _ => rfl⟩
    complete := hstep.isComplete_iff
    succeeds := parameters_ok_iff
    parameters := fun _ => hstep.of_parameters
    missing := hstep.missing }

end Statement

end TypedRows
