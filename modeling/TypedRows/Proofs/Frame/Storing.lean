import TypedRows.Frame
import TypedRows.Proofs.Number.Integer
import TypedRows.Proofs.Record.Construction
import TypedRows.Proofs.Traversal
/-!
# Columns of cells without parts

A column stores its cells one by one, but how it stores an integer depends on all of them: beside a null it goes
through a double. `Frame.restored` is what a column gives back of a cell, and `Kind.Overflows` says when it cannot be
stored at all, because an integer is rounded out of its range.

Main statements: `storeCells_of_not_overflows` and `storeCells_of_overflows`.
-/

namespace TypedRows

def Kind.isInteger : Kind → Bool
  | .int32 | .int64 => true
  | _ => false

/-- A number is kept by columns of the kind: it is defined, and of single precision if the column is. -/
def Kind.KeepsNumber (kind : Kind) (cell : Cell) : Prop :=
  ∀ x, cell = .float x → x.isNaN = false ∧ (kind = .float32 → x.narrow = x)

/-- An integer stands beside a null, and its nearest double is no integer of eight bytes any more. -/
def Kind.Overflows (kind : Kind) (cells : List Cell) : Prop :=
  kind.isInteger = true ∧ cells.any Cell.isNull = true ∧
    ∃ cell ∈ cells, ∃ i, cell.asInt? = some i ∧ inRange Kind.int64Range (throughDouble i) = false

namespace Frame

/-- What a column gives back of a cell: an integer as a plain one, which went through a double if the column has a
null, and any other cell as it is. -/
def restored (kind : Kind) (hasNull : Bool) (cell : Cell) : Cell :=
  match kind.isInteger, cell.asInt? with
  | true, some i => .int (if hasNull then throughDouble i else i)
  | _, _ => cell

/-- A cell as a column keeps it; a null is missing. -/
def kept (kind : Kind) (hasNull : Bool) (cell : Cell) : Option Cell :=
  if cell.isNull then none else some (restored kind hasNull cell)

variable {kind : Kind} {cell : Cell}

theorem restored_of_asInt? {i : Int} (hkind : kind.isInteger = true) (hi : cell.asInt? = some i) (hasNull : Bool) :
    restored kind hasNull cell = .int (if hasNull then throughDouble i else i) := by
  rw [restored, hkind, hi]

theorem restored_of_not_integer (h : kind.isInteger = false ∨ cell.asInt? = none) (hasNull : Bool) :
    restored kind hasNull cell = cell := by
  rw [restored]
  rcases h with h | h
  · rw [h]
  · rw [h]
    cases kind.isInteger <;> rfl

end Frame

/-! ## Integers -/

/-- An integer of eight bytes has a nearest double. -/
theorem natAbs_lt_doubleLimit {i : Int} (h : inRange Kind.int64Range i = true) : i.natAbs < doubleLimit := by
  have hrange : i.natAbs < 2 ^ 64 := by
    rw [inRange_iff] at h
    simp only [Kind.int64Range] at h
    omega
  have hpow : ∀ n, 64 ≤ n → 2 ^ 64 ≤ 2 ^ n := fun n hn => Nat.pow_le_pow_right (by decide) hn
  exact Nat.lt_of_lt_of_le hrange (Nat.le_trans (hpow 1023 (by decide)) two_pow_le_doubleLimit)

theorem inRange_int64_of_int32 {i : Int} (h : Kind.int32Range.1 ≤ i ∧ i ≤ Kind.int32Range.2) :
    inRange Kind.int64Range i = true := by
  rw [inRange_iff]
  simp only [Kind.int32Range, Kind.int64Range] at *
  omega

theorem integerThroughDouble_eq {cell : Cell} {i : Int} (hi : cell.asInt? = some i) (h : i.natAbs < doubleLimit) :
    integerThroughDouble cell =
      if inRange Kind.int64Range (throughDouble i) then .ok (.int (throughDouble i)) else failType .lossyInteger := by
  -- The way through the double is made a variable first: a check that unfolds the rounding would not end.
  obtain ⟨cut, hcut⟩ : ∃ cut : Int → Option Int, ∀ j, (Binary.ofInt j : Double).truncate? = cut j :=
    ⟨_, fun _ => rfl⟩
  obtain ⟨stored, hstored⟩ : ∃ stored, (Binary.ofInt i : Double).truncate? = some stored := ⟨_, truncate?_ofInt h⟩
  rw [throughDouble, hstored, Option.getD_some]
  rw [hcut] at hstored
  rw [integerThroughDouble]
  simp only [hcut]
  rw [hi]
  simp only [hstored]

/-- An integer of a column with a null goes through its nearest double. -/
theorem storeThroughDouble_eq {cell : Cell} {i : Int} (hi : cell.asInt? = some i)
    (h : inRange Kind.int64Range i = true) :
    (if cell.isNull then .ok none else (integerThroughDouble cell).map some : Except Error (Option Cell)) =
      if inRange Kind.int64Range (throughDouble i) then .ok (some (.int (throughDouble i)))
      else failType .lossyInteger := by
  rw [Cell.isNull_of_asInt? hi, integerThroughDouble_eq hi (natAbs_lt_doubleLimit h)]
  cases inRange Kind.int64Range (throughDouble i) <;> rfl

/-- The values of an integer kind are integers of eight bytes. -/
theorem Kind.Plain.exists_integer {kind : Kind} {cell : Cell} (h : kind.Plain cell) (hkind : kind.isInteger = true) :
    ∃ i, cell.asInt? = some i ∧ inRange int64Range i = true := by
  cases h with
  | int32 i hi hrange => exact ⟨i, hi, inRange_int64_of_int32 hrange⟩
  | int64 i hi hrange => exact ⟨i, hi, inRange_iff.2 hrange⟩
  | _ => cases hkind

/-- Only the values of integer kinds are integers. -/
theorem Kind.Plain.cases_of_asInt? {kind : Kind} {cell : Cell} {i : Int} (h : kind.Plain cell)
    (hi : cell.asInt? = some i) :
    kind = .int32 ∧ int32Range.1 ≤ i ∧ i ≤ int32Range.2 ∨ kind = .int64 ∧ int64Range.1 ≤ i ∧ i ≤ int64Range.2 := by
  cases h with
  | int32 j hj hrange =>
    obtain rfl := Option.some.inj (hi.symm.trans hj)
    exact .inl ⟨rfl, hrange⟩
  | int64 j hj hrange =>
    obtain rfl := Option.some.inj (hi.symm.trans hj)
    exact .inr ⟨rfl, hrange⟩
  | _ => cases hi

section Column

variable {kind : Kind} {cells : List Cell}

theorem storeCells_of_isInteger (hkind : kind.isInteger = true) : storeCells kind cells = storeIntegers cells := by
  cases kind with
  | int32 | int64 => rfl
  | _ => cases hkind

/-- The integers of a column one by one: those of a column with a null go through doubles. -/
theorem storeIntegers_of_not_overflows (hkind : kind.isInteger = true)
    (hcells : ∀ cell ∈ cells, cell = .null ∨ kind.Plain cell) (h : ¬kind.Overflows cells) :
    storeIntegers cells = .ok (cells.map (Frame.kept kind (cells.any Cell.isNull))) := by
  rw [storeIntegers]
  cases hnull : cells.any Cell.isNull with
  | true =>
    rw [if_pos rfl, mapM_ok_iff, List.map_map]
    refine List.map_congr_left fun cell hcell => ?_
    rcases hcells cell hcell with rfl | hplain
    · rfl
    · obtain ⟨i, hi, hrange⟩ := hplain.exists_integer hkind
      have hin : inRange Kind.int64Range (throughDouble i) = true := by
        by_contra hout
        exact h ⟨hkind, hnull, cell, hcell, i, hi, by simpa using hout⟩
      rw [storeThroughDouble_eq hi hrange, if_pos hin, Function.comp_apply, Frame.kept, Cell.isNull_of_asInt? hi,
        Frame.restored_of_asInt? hkind hi]
      rfl
  | false =>
    rw [if_neg (by simp)]
    refine congrArg Except.ok (List.map_congr_left fun cell hcell => ?_)
    rcases hcells cell hcell with rfl | hplain
    · rw [List.any_eq_false] at hnull
      exact absurd rfl (hnull _ hcell)
    · obtain ⟨i, hi, -⟩ := hplain.exists_integer hkind
      rw [storedInteger, Frame.kept, Cell.isNull_of_asInt? hi, Frame.restored_of_asInt? hkind hi, hi]
      rfl

/-- A column that is not of integers stores its cells as they are. -/
theorem storeCell_eq (hkind : kind.isInteger = false) {cell : Cell} (hcell : cell = .null ∨ kind.Plain cell)
    (hkeeps : kind.KeepsNumber cell) (hasNull : Bool) : storeCell kind cell = Frame.kept kind hasNull cell := by
  rw [Frame.kept, Frame.restored_of_not_integer (.inl hkind)]
  rcases hcell with rfl | hplain
  · cases kind <;> rfl
  · cases hplain with
    | boolean b => rfl
    | int32 i hi hrange => cases hkind
    | int64 i hi hrange => cases hkind
    | float32 x =>
      obtain ⟨hdefined, hnarrow⟩ := hkeeps x rfl
      have hstored : storeCell .float32 (.float x) = definedNumber x.narrow := rfl
      rw [hstored, hnarrow rfl, definedNumber, hdefined]
      rfl
    | float64 x =>
      have hstored : storeCell .float64 (.float x) = definedNumber x := rfl
      rw [hstored, definedNumber, (hkeeps x rfl).1]
      rfl
    | string s => rfl
    | bytes data => rfl

/-- **A column of values without parts keeps them one by one**, unless an integer overflows. -/
theorem storeCells_of_not_overflows (hscalar : kind.isScalar = true)
    (hcells : ∀ cell ∈ cells, cell = .null ∨ kind.Plain cell)
    (hkeeps : ∀ cell ∈ cells, kind.KeepsNumber cell) (h : ¬kind.Overflows cells) :
    storeCells kind cells = .ok (cells.map (Frame.kept kind (cells.any Cell.isNull))) := by
  cases hinteger : kind.isInteger with
  | true =>
    rw [storeCells_of_isInteger hinteger]
    exact storeIntegers_of_not_overflows hinteger hcells h
  | false =>
    have hstore : storeCells kind cells = .ok (cells.map (storeCell kind)) := by
      cases kind with
      | int32 | int64 => cases hinteger
      | union => cases hscalar
      | _ => rfl
    rw [hstore]
    refine congrArg Except.ok (List.map_congr_left fun cell hcell => ?_)
    exact storeCell_eq hinteger (hcells cell hcell) (hkeeps cell hcell) _

/-- **A column with an integer that overflows cannot be stored.** -/
theorem storeCells_of_overflows (hcells : ∀ cell ∈ cells, cell = .null ∨ kind.Plain cell) (h : kind.Overflows cells) :
    storeCells kind cells = failType .lossyInteger := by
  obtain ⟨hkind, hnull, lost, hlost, i, hi, hout⟩ := h
  rw [storeCells_of_isInteger hkind, storeIntegers, if_pos hnull]
  have hlimit : inRange Kind.int64Range i = true := by
    rcases hcells lost hlost with rfl | hplain
    · cases hi
    · obtain ⟨j, hj, hrange⟩ := hplain.exists_integer hkind
      obtain rfl := Option.some.inj (hi.symm.trans hj)
      exact hrange
  refine mapM_eq_error (fun cell hcell e he => ?_) ⟨lost, hlost, ?_⟩
  · rcases hcells cell hcell with rfl | hplain
    · cases he
    · obtain ⟨j, hj, hrange⟩ := hplain.exists_integer hkind
      rw [storeThroughDouble_eq hj hrange] at he
      by_cases hin : inRange Kind.int64Range (throughDouble j) = true
      · rw [if_pos hin] at he
        cases he
      · rw [if_neg hin] at he
        cases he
        rfl
  · rw [storeThroughDouble_eq hi hlimit, hout]
    rfl

end Column

end TypedRows
