import TypedRows.Proofs.Statement.Log
/-!
# Windows of large objects

`window` is the part of the data that a position and a count name: the bytes at the positions from the first on and
before the end, as far as there are any. A large object gives this window (`getBytes_eq_window`), except where a negative
count puts the end before the first byte but not the size of the data before it (`CountsBack`). There the end is
counted from the end of the data, as if the count were greater by the size (`getBytes_of_countsBack`).

After it was freed a large object refuses every reading, but it keeps its data, and a statement that holds it sends
them as before.

Main statement: `Blob.getBytes_windowed_iff`, after any calls on a large object.
-/

namespace TypedRows

/-! ## Positions -/

section Positions

variable {α : Type}

/-- The items at the positions from one on and before another, if the first item is at position `n`. -/
theorem filter_positions (first stop : Int) (xs : List α) (n : Nat) :
    ((xs.zipIdx n).filter fun entry => first ≤ entry.2 && entry.2 < stop).map Prod.fst =
      (xs.take (stop - n).toNat).drop (first - n).toNat := by
  induction xs generalizing n with
  | nil => simp
  | cons x xs ih =>
    rw [List.zipIdx_cons, List.filter_cons]
    by_cases hstop : (n : Int) < stop
    · have htake : (stop - n).toNat = (stop - (n + 1 : Nat)).toNat + 1 := by omega
      by_cases hfirst : first ≤ n
      · have hdrop : (first - n).toNat = 0 := by omega
        have hdrop' : (first - (n + 1 : Nat)).toNat = 0 := by omega
        rw [if_pos (by simp [hfirst, hstop]), List.map_cons, ih, htake, hdrop, hdrop', List.take_succ_cons,
          List.drop_zero, List.drop_zero]
      · have hdrop : (first - n).toNat = (first - (n + 1 : Nat)).toNat + 1 := by omega
        rw [if_neg (by simp [hfirst]), ih, htake, hdrop, List.take_succ_cons, List.drop_succ_cons]
    · have htake : (stop - n).toNat = 0 := by omega
      have htake' : (stop - (n + 1 : Nat)).toNat = 0 := by omega
      rw [if_neg (by simp [hstop]), ih, htake, htake', List.take_zero, List.take_zero, List.drop_nil, List.drop_nil]

/-- Two pieces of a list that meet are one piece. -/
theorem drop_take_append_drop_take (xs : List α) {i j k : Nat} (hij : i ≤ j) (hjk : j ≤ k) :
    (xs.take j).drop i ++ (xs.take k).drop j = (xs.take k).drop i := by
  have hfirst : (xs.take j).drop i = ((xs.take k).drop i).take (j - i) := by
    rw [← List.drop_take, List.take_take, Nat.min_eq_left hjk]
  have hsecond : (xs.take k).drop j = ((xs.take k).drop i).drop (j - i) := by
    rw [List.drop_drop, Nat.add_sub_cancel' hij]
  rw [hfirst, hsecond, List.take_append_drop]

end Positions

namespace Blob

/-! ## Windows -/

/-- The bytes at the positions from one on, before the position that lies `count` behind it. Positions count from 1. -/
def window (data : Bytes) (position count : Int) : Bytes :=
  ((data.zipIdx 1).filter fun entry => position ≤ entry.2 && entry.2 < position + count).map Prod.fst

theorem window_eq (data : Bytes) (position count : Int) :
    window data position count = (data.take (position - 1 + count).toNat).drop (position - 1).toNat := by
  have hend : position + count - (1 : Nat) = position - 1 + count := by omega
  rw [window, filter_positions, hend]
  rfl

/-- A window has as many bytes as its count says, or as there are from its position on. -/
theorem length_window (data : Bytes) {position : Int} (hposition : 1 ≤ position) (count : Int) :
    ((window data position count).length : Int) = max 0 (min count (data.length + 1 - position)) := by
  rw [window_eq, List.length_drop, List.length_take]
  omega

/-- Windows that meet are one window. -/
theorem window_append (data : Bytes) (position : Int) {count more : Int} (hcount : 0 ≤ count) (hmore : 0 ≤ more) :
    window data position count ++ window data (position + count) more = window data position (count + more) := by
  have hmeet : position + count - 1 = position - 1 + count := by omega
  rw [window_eq, window_eq, window_eq, hmeet, Int.add_assoc]
  apply drop_take_append_drop_take
  · omega
  · omega

/-- The window would end before the first byte, by less than the size of the data. -/
def CountsBack (size : Nat) (position count : Int) : Prop := 1 ≤ position ∧ position ≤ -count ∧ -count < size

instance (size : Nat) (position count : Int) : Decidable (CountsBack size position count) :=
  inferInstanceAs (Decidable (_ ∧ _))

/-! ## Reading windows -/

variable {b : Blob} {position count : Int}

theorem getBytes_of_freed (h : b.freed = true) (position count : Int) : b.getBytes position count = .error .freed := by
  rw [getBytes, check, if_pos h]
  rfl

theorem getBytes_of_lt_one (h : b.freed = false) (hposition : position < 1) (count : Int) :
    b.getBytes position count = .error (.position position) := by
  rw [getBytes, check, h, if_pos hposition]
  rfl

theorem getBytes_of_one_le (h : b.freed = false) (hposition : 1 ≤ position) (count : Int) :
    b.getBytes position count =
      .ok ((b.data.take (windowEnd b.data.length (position - 1 + count))).drop (position - 1).toNat) := by
  have hnot : ¬position < 1 := by omega
  rw [getBytes, check, h, if_neg hnot]
  rfl

/-- **A window is read as it is**, unless its end is counted back. -/
theorem getBytes_eq_window (h : b.freed = false) (hposition : 1 ≤ position)
    (hcount : ¬CountsBack b.data.length position count) :
    b.getBytes position count = .ok (window b.data position count) := by
  rw [getBytes_of_one_le h hposition, window_eq, windowEnd]
  by_cases hend : position - 1 + count < 0
  · -- Both windows are empty: the one that is read ends before it begins.
    have hleft : (b.data.take (b.data.length + (position - 1 + count)).toNat).drop (position - 1).toNat = [] := by
      unfold CountsBack at hcount
      apply List.drop_eq_nil_of_le
      rw [List.length_take]
      omega
    have hright : (position - 1 + count).toNat = 0 := by omega
    rw [if_pos hend, hleft, hright, List.take_zero, List.drop_nil]
  · rw [if_neg hend]

/-- Where the end is counted back, the window is that of a count greater by the size. -/
theorem getBytes_of_countsBack (h : b.freed = false) (hcount : CountsBack b.data.length position count) :
    b.getBytes position count = .ok (window b.data position (b.data.length + count)) := by
  obtain ⟨hposition, hback, -⟩ := hcount
  have hend : position - 1 + count < 0 := by omega
  have hsame : position - 1 + (b.data.length + count) = b.data.length + (position - 1 + count) := by omega
  rw [getBytes_of_one_le h hposition, window_eq, windowEnd, if_pos hend, hsame]

theorem getBytes_eq_window_iff (h : b.freed = false) (hposition : 1 ≤ position) :
    b.getBytes position count = .ok (window b.data position count) ↔ ¬CountsBack b.data.length position count := by
  constructor
  · intro heq hcount
    rw [getBytes_of_countsBack h hcount, Except.ok.injEq] at heq
    -- The window that is read has bytes, and the one that is named has none.
    have hlength := congrArg (fun bytes => (bytes.length : Int)) heq
    simp only [length_window _ hposition] at hlength
    unfold CountsBack at hcount
    omega
  · exact getBytes_eq_window h hposition

/-- Two windows that meet are read as one, by a large object that is freed or not. -/
theorem getBytes_append (b : Blob) (position : Int) {count more : Int} (hcount : 0 ≤ count) (hmore : 0 ≤ more) :
    (do return (← b.getBytes position count) ++ (← b.getBytes (position + count) more)) =
      b.getBytes position (count + more) := by
  cases h : b.freed with
  | true =>
    rw [getBytes_of_freed h, getBytes_of_freed h, getBytes_of_freed h]
    rfl
  | false =>
    by_cases hposition : position < 1
    · rw [getBytes_of_lt_one h hposition, getBytes_of_lt_one h hposition]
      rfl
    · have hread : ∀ p c : Int, 1 ≤ p → 0 ≤ c → b.getBytes p c = .ok (window b.data p c) := by
        intro p c hp hc
        apply getBytes_eq_window h hp
        unfold CountsBack
        omega
      rw [hread _ _ (by omega) hcount, hread _ _ (by omega) hmore, hread _ _ (by omega) (by omega),
        ← window_append _ _ hcount hmore]
      rfl

/-! ## Calls on a large object -/

inductive Call where
  | length
  | read
  | getBytes (position count : Int)
  | bytes
  | free
deriving DecidableEq

def perform (b : Blob) : Call → Blob
  | .free => b.free
  | .length | .read | .getBytes .. | .bytes => b

def run (b : Blob) (calls : List Call) : Blob := calls.foldl perform b

theorem data_run (b : Blob) (calls : List Call) : (b.run calls).data = b.data := by
  induction calls generalizing b with
  | nil => rfl
  | cons c calls ih => cases c <;> exact ih _

/-- A large object is freed by one call, for good. -/
theorem freed_run_iff (b : Blob) (calls : List Call) :
    (b.run calls).freed = true ↔ b.freed = true ∨ .free ∈ calls := by
  induction calls generalizing b with
  | nil => simp [run]
  | cons c calls ih =>
    have hrun : b.run (c :: calls) = (b.perform c).run calls := rfl
    rw [hrun, ih]
    cases c with
    | free => simp [perform, free]
    | length | read | getBytes | bytes => simp [perform]

/-! ## What a large object answers -/

/-- What a large object that is not freed answers for its windows. -/
structure IsWindowed (b : Blob) : Prop where
  /-- A window is refused if and only if it would begin before the first byte. -/
  refused : ∀ position count e, b.getBytes position count = .error e ↔ position < 1 ∧ e = .position position
  named : ∀ position count, 1 ≤ position →
    (b.getBytes position count = .ok (window b.data position count) ↔ ¬CountsBack b.data.length position count)
  countedBack : ∀ position count, CountsBack b.data.length position count →
    b.getBytes position count = .ok (window b.data position (b.data.length + count))
  /-- There are no more bytes than the count says, and none for a count that is not positive. -/
  bounded : ∀ position count bytes, ¬CountsBack b.data.length position count →
    b.getBytes position count = .ok bytes → (bytes.length : Int) ≤ max 0 count

/-- A large object that refuses every reading. -/
structure Refuses (b : Blob) : Prop where
  length : b.length = .error .freed
  read : b.read = .error .freed
  getBytes : ∀ position count, b.getBytes position count = .error .freed

theorem isWindowed_of_not_freed (h : b.freed = false) : b.IsWindowed where
  refused position count e := by
    by_cases hposition : position < 1
    · simp [getBytes_of_lt_one h hposition, hposition, eq_comm]
    · simp [getBytes_of_one_le h (Int.not_lt.1 hposition), hposition]
  named position count hposition := getBytes_eq_window_iff h hposition
  countedBack position count hcount := getBytes_of_countsBack h hcount
  bounded position count bytes hcount hbytes := by
    have hposition : 1 ≤ position := by
      by_contra hlt
      rw [getBytes_of_lt_one h (Int.not_le.1 hlt)] at hbytes
      cases hbytes
    rw [getBytes_eq_window h hposition hcount] at hbytes
    cases hbytes
    have hlength := length_window b.data hposition count
    omega

theorem refuses_of_freed (h : b.freed = true) : b.Refuses where
  length := by
    rw [Blob.length, check, if_pos h]
    rfl
  read := by
    rw [Blob.read, check, if_pos h]
    rfl
  getBytes := getBytes_of_freed h

/-- A statement that holds a large object sends its data, whatever is called on it meanwhile. -/
theorem parameters_of_run {s : Statement} {i : Nat} (hslot : s.slots[i]? = some (some (.blob b))) (calls : List Call) :
    { s with slots := s.slots.set i (some (.blob (b.run calls))) }.parameters = s.parameters := by
  apply Statement.parameters_congr
  have hsent : s.sent (.blob (b.run calls)) = s.sent (.blob b) := by
    rw [Statement.sent, Statement.sent, data_run]
  have hsame : (s.slots.map (Option.map s.sent))[i]? = some (some (s.sent (.blob (b.run calls)))) := by
    rw [List.getElem?_map, hslot, hsent]
    rfl
  show (s.slots.set i _).map (Option.map s.sent) = _
  obtain ⟨hi, hvalue⟩ := List.getElem?_eq_some_iff.1 hsame
  rw [List.map_set, Option.map_some, ← hvalue, List.set_getElem_self]

/-- A large object of the data after calls. -/
def after (data : Bytes) (calls : List Call) : Blob := (Blob.mk data false).run calls

/-- **What a large object gives after any calls.** It keeps its data. If no call freed it, it gives the windows of the
data that are named, except where the end of a window is counted back; there the window is a longer one. If a call freed
it, it refuses every reading. Windows that meet are read as one, and a statement that holds it sends the data as before. -/
theorem getBytes_windowed_iff (data : Bytes) (calls : List Call) :
    ((after data calls).data = data ∧ (Cell.blob (after data calls)).toBytes = .ok data) ∧
    (.free ∉ calls → (after data calls).IsWindowed) ∧
    (.free ∈ calls → (after data calls).Refuses) ∧
    (∀ position count more : Int, 0 ≤ count → 0 ≤ more →
      (do return (← (after data calls).getBytes position count) ++
          (← (after data calls).getBytes (position + count) more)) =
        (after data calls).getBytes position (count + more)) ∧
    ∀ (s : Statement) (i : Nat), s.slots[i]? = some (some (.blob ⟨data, false⟩)) →
      { s with slots := s.slots.set i (some (.blob (after data calls))) }.parameters = s.parameters ∧
      ∀ values, s.parameters = .ok values → values[i]? = some (.bytes .frozen data) := by
  have hdata : (after data calls).data = data := data_run _ calls
  have hfreed : (after data calls).freed = true ↔ false = true ∨ .free ∈ calls := freed_run_iff _ calls
  refine ⟨⟨hdata, congrArg Except.ok hdata⟩, ?_, ?_, ?_, ?_⟩
  · intro hopen
    apply isWindowed_of_not_freed
    rw [Bool.eq_false_iff, ne_eq, hfreed]
    simpa using hopen
  · intro hfree
    apply refuses_of_freed
    rw [hfreed]
    exact .inr hfree
  · intro position count more hcount hmore
    exact getBytes_append _ position hcount hmore
  · intro s i hslot
    refine ⟨parameters_of_run hslot calls, ?_⟩
    intro values hvalues
    rw [Statement.getElem?_parameters hvalues hslot]
    rfl

/-- A window of a negative count is not always empty. -/
theorem not_windowed_of_negative :
    ¬∀ (data : Bytes) (position count : Int), 1 ≤ position →
      (Blob.mk data false).getBytes position count = .ok (window data position count) := by
  intro h
  have hread : (Blob.mk [97, 98, 99] false).getBytes 1 (-1) = .ok [97, 98] := rfl
  have hnamed : window [97, 98, 99] 1 (-1) = [] := rfl
  have heq := h [97, 98, 99] 1 (-1) (Int.le_refl 1)
  rw [hread, hnamed] at heq
  cases heq

end Blob

end TypedRows
