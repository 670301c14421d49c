import Mathlib.Data.List.Forall2
/-!
# Traversals

A list is traversed by a computation for each item, up to the first item that fails. `mapM_ok_iff` says when a
traversal succeeds and with what, `mapM_error_iff` when and how it fails.
-/

namespace TypedRows

variable {ε α β : Type} {f : α → Except ε β}

/-- A traversal that succeeds has one result for each item, in the order of the items. -/
theorem mapM_ok_iff {xs : List α} {ys : List β} : xs.mapM f = .ok ys ↔ xs.map f = ys.map .ok := by
  induction xs generalizing ys with
  | nil => cases ys <;> simp [pure, Except.pure]
  | cons x xs ih =>
    rw [List.mapM_cons]
    cases hx : f x with
    | error e => cases ys <;> simp [bind, Except.bind, hx]
    | ok y =>
      cases hrest : xs.mapM f with
      | error e => cases ys <;> simp [bind, Except.bind, ← ih, hrest, hx]
      | ok rest => cases ys <;> simp [bind, Except.bind, pure, Except.pure, ← ih, hrest, hx]

/-- The results of a traversal are those of the items one by one. -/
theorem mapM_ok_iff_forall₂ {xs : List α} {ys : List β} :
    xs.mapM f = .ok ys ↔ List.Forall₂ (fun x y => f x = .ok y) xs ys := by
  rw [mapM_ok_iff, ← List.forall₂_eq_eq_eq, List.forall₂_map_left_iff, List.forall₂_map_right_iff]

/-- A traversal fails with the first item that fails. -/
theorem mapM_error_iff {xs : List α} {e : ε} :
    xs.mapM f = .error e ↔
      ∃ before x after, xs = before ++ x :: after ∧ (∀ y ∈ before, ∃ z, f y = .ok z) ∧ f x = .error e := by
  induction xs with
  | nil => simp [pure, Except.pure]
  | cons x xs ih =>
    rw [List.mapM_cons]
    cases hx : f x with
    | error e' =>
      constructor
      · intro h
        cases h
        exact ⟨[], x, xs, rfl, by simp, hx⟩
      · rintro ⟨before, y, after, hxs, hbefore, hy⟩
        cases before with
        | nil =>
          cases hxs
          rw [hx] at hy
          cases hy
          rfl
        | cons b before =>
          cases hxs
          obtain ⟨z, hz⟩ := hbefore x List.mem_cons_self
          rw [hx] at hz
          cases hz
    | ok z =>
      have hrest : (do return z :: (← xs.mapM f) : Except ε (List β)) = .error e ↔ xs.mapM f = .error e := by
        cases xs.mapM f with
        | error e' => simp [bind, Except.bind]
        | ok ys => simp [bind, Except.bind, pure, Except.pure]
      refine hrest.trans (ih.trans ⟨?_, ?_⟩)
      · rintro ⟨before, y, after, rfl, hbefore, hy⟩
        exact ⟨x :: before, y, after, rfl, List.forall_mem_cons.2 ⟨⟨z, hx⟩, hbefore⟩, hy⟩
      · rintro ⟨before, y, after, hxs, hbefore, hy⟩
        cases before with
        | nil =>
          cases hxs
          rw [hx] at hy
          cases hy
        | cons b before =>
          cases hxs
          exact ⟨before, y, after, rfl, (List.forall_mem_cons.1 hbefore).2, hy⟩

/-- A traversal succeeds if and only if no item fails. -/
theorem exists_mapM_ok_iff {xs : List α} : (∃ ys, xs.mapM f = .ok ys) ↔ ∀ x ∈ xs, ∃ y, f x = .ok y := by
  constructor
  · rintro ⟨ys, h⟩ x hx
    have hmem : f x ∈ ys.map .ok := mapM_ok_iff.1 h ▸ List.mem_map_of_mem hx
    obtain ⟨y, -, hy⟩ := List.mem_map.1 hmem
    exact ⟨y, hy.symm⟩
  · intro h
    cases hrun : xs.mapM f with
    | ok ys => exact ⟨ys, rfl⟩
    | error e =>
      obtain ⟨before, x, after, rfl, -, hx⟩ := mapM_error_iff.1 hrun
      obtain ⟨y, hy⟩ := h x (by simp)
      rw [hx] at hy
      cases hy

/-- A traversal whose items can fail in one way only fails in this way if one of them does. -/
theorem mapM_eq_error {xs : List α} {e : ε} (honly : ∀ x ∈ xs, ∀ e', f x = .error e' → e' = e)
    (hfail : ∃ x ∈ xs, f x = .error e) : xs.mapM f = .error e := by
  cases hrun : xs.mapM f with
  | ok ys =>
    obtain ⟨x, hx, he⟩ := hfail
    obtain ⟨y, hy⟩ := exists_mapM_ok_iff.1 ⟨ys, hrun⟩ x hx
    rw [he] at hy
    cases hy
  | error e' =>
    obtain ⟨before, x, after, rfl, -, hx⟩ := mapM_error_iff.1 hrun
    rw [honly x (by simp) e' hx]

/-- Results that are right one by one are the results of a traversal. -/
theorem exists_mapM_forall₂ {R : α → β → Prop} {xs : List α} (h : ∀ x ∈ xs, ∃ y, f x = .ok y ∧ R x y) :
    ∃ ys, xs.mapM f = .ok ys ∧ List.Forall₂ R xs ys := by
  induction xs with
  | nil => exact ⟨[], rfl, .nil⟩
  | cons x xs ih =>
    rw [List.forall_mem_cons] at h
    obtain ⟨⟨y, hy, hR⟩, hrest⟩ := h
    obtain ⟨ys, hys, hall⟩ := ih hrest
    refine ⟨y :: ys, ?_, .cons hR hall⟩
    rw [mapM_ok_iff] at hys ⊢
    rw [List.map_cons, List.map_cons, hy, hys]

/-- Items and results are related in all places exactly if the items have a property that stands for the relation. -/
theorem forall₂_iff_forall {R S : α → β → Prop} {P : α → Prop} {xs : List α} {ys : List β}
    (h : List.Forall₂ S xs ys) (hiff : ∀ x ∈ xs, ∀ y, S x y → (R x y ↔ P x)) :
    List.Forall₂ R xs ys ↔ ∀ x ∈ xs, P x := by
  induction h with
  | nil => simp
  | cons hxy hrest ih =>
    rw [List.forall_mem_cons] at hiff
    rw [List.forall₂_cons, List.forall_mem_cons, hiff.1 _ hxy, ih hiff.2]

/-- Each result is that of the item in its place. -/
theorem getElem?_of_mapM {xs : List α} {ys : List β} (h : xs.mapM f = .ok ys) :
    ys.length = xs.length ∧ ∀ (i : Nat) x y, xs[i]? = some x → ys[i]? = some y → f x = .ok y := by
  have hmap := mapM_ok_iff.1 h
  constructor
  · simpa using (congrArg List.length hmap).symm
  · intro i x y hx hy
    have hat : (xs.map f)[i]? = (ys.map Except.ok)[i]? := by rw [hmap]
    simpa [hx, hy] using hat

/-- A traversal that succeeds has a result for every item, at its position. -/
theorem exists_getElem?_of_mapM {xs : List α} {ys : List β} (h : xs.mapM f = .ok ys) {i : Nat} {x : α}
    (hx : xs[i]? = some x) : ∃ y, ys[i]? = some y ∧ f x = .ok y := by
  obtain ⟨hlength, hstep⟩ := getElem?_of_mapM h
  obtain ⟨hi, -⟩ := List.getElem?_eq_some_iff.1 hx
  cases hy : ys[i]? with
  | none => exact absurd (List.getElem?_eq_none_iff.1 hy) (by omega)
  | some y => exact ⟨y, rfl, hstep i x y hx hy⟩

/-- A traversal of which every step succeeds. -/
theorem mapM_of_forall {γ : Type} {key : γ → α} {value : γ → β} {items : List γ}
    (h : ∀ c ∈ items, f (key c) = .ok (value c)) : (items.map key).mapM f = .ok (items.map value) := by
  rw [mapM_ok_iff, List.map_map, List.map_map]
  exact List.map_congr_left h

end TypedRows
