import TypedRows.Proofs.Cell.Normalization
import TypedRows.Proofs.Statement.Log
/-!
# Dates and times as text parameters

SQLite has no types for dates and times, so a statement sends them as text. What is set at a position can be read
back from the text: in a column of its type the text is normalized to the same count as the value itself, and fails
where the value itself fails, for every offset of whole minutes.

Main statement: `Statement.normalize_textParameter`, after any calls on a statement.
-/

namespace TypedRows

namespace Statement

variable {s : Statement}

/-- SQLite is sent the text. -/
theorem sent_of_hasTemporal {type : SqlType} {value : Cell} (hdialect : s.dialect = some Dialect.sqlite.name)
    (h : type.HasTemporal value) : s.sent value = temporalText value := by
  cases h <;> simp [sent, hdialect]

/-- A setter of dates, times or instants. -/
def IsTemporalSetter (setter : Setter) : Prop := setter = .date ∨ setter = .time ∨ setter = .timestamp

/-- These setters store what they are given. -/
theorem IsTemporalSetter.convert {setter : Setter} (h : IsTemporalSetter setter) (value : Cell) :
    setter.convert value = .ok (Setter.plain value) := by
  rcases h with rfl | rfl | rfl <;> rfl

/-- After one more value a statement is complete if every other position has a value. -/
theorem InStep.isComplete_append_one_iff (h : s.InStep) {b : Binding} (hlo : 1 ≤ b.index) (hhi : b.index ≤ s.count) :
    (s.append [b]).isComplete = true ↔
      ∀ p : Nat, 1 ≤ p → (p : Int) ≤ s.count → (p : Int) ≠ b.index → ∃ b' ∈ s.bindings, b'.index = p := by
  have hlog : (s.append [b]).bindings = s.bindings ++ [b] := rfl
  rw [(h.append hlo hhi).isComplete_iff, hlog]
  constructor
  · intro hall p hp hcount hne
    obtain ⟨b', hb', hindex⟩ := hall p hp hcount
    rcases List.mem_append.1 hb' with hb' | hb'
    · exact ⟨b', hb', hindex⟩
    · rw [List.mem_singleton.1 hb'] at hindex
      exact absurd hindex.symm hne
  · intro hother p hp hcount
    by_cases hne : (p : Int) = b.index
    · exact ⟨b, by simp, hne.symm⟩
    · obtain ⟨b', hb', hindex⟩ := hother p hp hcount hne
      exact ⟨b', List.mem_append_left _ hb', hindex⟩

/-- **A date, a time or an instant that is sent to SQLite reads back as itself.** Whatever was called on the statement
before, its value is set, and the statement has parameters if every other position has a value. The parameter at the
position is then a text, which is normalized like the value: to its count, or to an overflow if it has none. -/
theorem normalize_textParameter (sql : String) (count : Int) (calls : List Call) {setter : Setter} {index : Int}
    {type : SqlType} {value : Cell} (hsetter : IsTemporalSetter setter) (hlo : 1 ≤ index) (hhi : index ≤ count)
    (hvalue : type.HasTemporal value) :
    ∃ next, (((ofSql sql count (some Dialect.sqlite.name)).run calls).1).set setter index value = .ok next ∧
      ((∃ values, next.parameters = .ok values) ↔ ∀ p : Nat, 1 ≤ p → (p : Int) ≤ count → (p : Int) ≠ index →
        ∃ b ∈ ((ofSql sql count (some Dialect.sqlite.name)).run calls).1.bindings, b.index = p) ∧
      ∀ values, next.parameters = .ok values → ∃ written, values[(index - 1).toNat]? = some (.text written) ∧
        ((Cell.text written).normalize type).outcome = (value.normalize type).outcome ∧
        value.HasCount ((Cell.text written).normalize type).outcome := by
  have hstep := (inStep_ofSql sql count (some Dialect.sqlite.name)).run calls
  obtain ⟨-, hcount, hdialect⟩ := (ofSql sql count (some Dialect.sqlite.name)).run_frame calls
  -- From here on nothing depends on how the statement came about.
  generalize ((ofSql sql count (some Dialect.sqlite.name)).run calls).1 = s at *
  obtain rfl : s.count = count := hcount
  have hset : s.set setter index value = .ok (s.append [⟨setter, index, Setter.plain value⟩]) :=
    set_eq_ok_iff.2 ⟨_, hsetter.convert value, hlo, hhi, rfl⟩
  refine ⟨_, hset, ?_, ?_⟩
  · rw [parameters_ok_iff, hstep.isComplete_append_one_iff hlo hhi]
  · intro values hvalues
    have hslot : (s.append [⟨setter, index, Setter.plain value⟩]).slots[(index - 1).toNat]? = some (some value) := by
      show (s.slots.set (index - 1).toNat (some value))[(index - 1).toNat]? = _
      rw [List.getElem?_set_self]
      rw [hstep.size]
      omega
    have hnext : (s.append [⟨setter, index, Setter.plain value⟩]).dialect = some Dialect.sqlite.name := hdialect
    obtain ⟨written, hwritten, hsame⟩ := Cell.normalize_temporalText hvalue
    refine ⟨written, ?_, hsame, hsame ▸ Cell.hasCount_normalize hvalue⟩
    rw [getElem?_parameters hvalues hslot, sent_of_hasTemporal hnext hvalue, hwritten]

/-- The last half second of a February of three digits, half an hour behind universal time. -/
def lateEvening : Cell := .datetime ⟨⟨965, 2, 28, by decide⟩, ⟨23, 59, 59, 500000, by decide⟩⟩ (some (-1800))

theorem hasTemporal_lateEvening : SqlType.timestamp.HasTemporal lateEvening := by
  apply SqlType.HasTemporal.datetime (.inr rfl)
  intro o ho
  cases ho
  decide

/-- A late evening sent to SQLite is the next day in universal time, read from the text or from the value. -/
theorem normalize_textParameter_lateEvening :
    (IsTemporalSetter .timestamp ∧ (1 : Int) ≤ 1 ∧ SqlType.timestamp.HasTemporal lateEvening) ∧
      ∃ next values, (ofSql "insert" 1 (some Dialect.sqlite.name)).set .timestamp 1 lateEvening = .ok next ∧
        next.parameters = .ok values ∧ ∃ written, values[0]? = some (.text written) ∧
          ((Cell.text written).normalize .timestamp).outcome = (lateEvening.normalize .timestamp).outcome ∧
          lateEvening.HasCount ((Cell.text written).normalize .timestamp).outcome := by
  have hsetter : IsTemporalSetter .timestamp := .inr (.inr rfl)
  obtain ⟨next, hset, hcomplete, hreads⟩ :=
    normalize_textParameter "insert" 1 [] hsetter (Int.le_refl 1) (Int.le_refl 1) hasTemporal_lateEvening
  obtain ⟨values, hvalues⟩ := hcomplete.2 fun p hp hcount hne => absurd (by omega) hne
  exact ⟨⟨hsetter, Int.le_refl 1, hasTemporal_lateEvening⟩, next, values, hset, hvalues, hreads values hvalues⟩

end Statement

end TypedRows
