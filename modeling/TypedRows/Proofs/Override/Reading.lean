import TypedRows.Override
import TypedRows.Proofs.Entries
import TypedRows.Proofs.Record.Equality
/-!
# What documents hold

A document holds null, truth values, numbers and texts, and lists and objects of these (`Document.IsValue`). So it holds
no cell that would differ from itself as a pattern (`Document.IsValue.samePattern_self`): the one number that is no
key of its own is shared by all documents, and what is made of parts is no key at all.

Main statement: `Document.isValue_ofBytes?`.
-/

namespace TypedRows

namespace Document

/-- The cell is a value that a document can hold. Objects have texts for their keys. -/
inductive IsValue : Cell → Prop
  | null : IsValue .null
  | bool (b : Bool) : IsValue (.bool b)
  | int (i : Int) : IsValue (.int i)
  | float (x : Double) : IsValue (.float x)
  | text (s : String) : IsValue (.text s)
  | list {items : List Cell} (hitems : ∀ item ∈ items, IsValue item) : IsValue (.list items)
  | map {entries : List (Cell × Cell)} (hnames : ∀ entry ∈ entries, ∃ name, entry.1 = .text name)
      (hvalues : ∀ entry ∈ entries, IsValue entry.2) : IsValue (.map entries)

/-! ## Values as sequences and as patterns -/

theorem IsValue.get? {entries : List (Cell × Cell)} {key value : Cell} (h : IsValue (.map entries))
    (hget : Entries.get? entries key = some value) : IsValue value := by
  cases h with
  | map hnames hvalues =>
    clear hnames
    induction entries with
    | nil => cases hget
    | cons entry entries ih =>
      obtain ⟨known, found⟩ := entry
      rw [List.forall_mem_cons] at hvalues
      rw [Entries.get?] at hget
      split at hget
      · cases hget
        exact hvalues.1
      · exact ih hget hvalues.2

/-- The items of a value are values: characters, items of a list or keys of an object. -/
theorem IsValue.of_mem_items {value item : Cell} {items : List Cell} (h : IsValue value)
    (hitems : value.items = .ok items) (hmem : item ∈ items) : IsValue item := by
  cases h with
  | text s =>
    cases hitems
    obtain ⟨c, -, rfl⟩ := List.mem_map.1 hmem
    exact .text _
  | list hvalues =>
    cases hitems
    exact hvalues item hmem
  | map hnames hvalues =>
    cases hitems
    obtain ⟨entry, hentry, rfl⟩ := List.mem_map.1 hmem
    obtain ⟨name, hname⟩ := hnames entry hentry
    exact hname ▸ .text name
  | _ => cases hitems

/-- A real number that is defined is the same key as itself. -/
theorem sameSimpleKey_self (cell : Cell) {q : Quantity} (hnumber : cell.complexQuantity? = some (q, .exact 0))
    (hdefined : q.isUndefined = false) : cell.sameSimpleKey cell = true := by
  have himaginary : (Quantity.exact 0).alike? (.exact 0) = some true := Quantity.alike?_self rfl
  simp only [Cell.sameSimpleKey, hnumber, alikeNumbers, Quantity.alike?_self hdefined, himaginary, if_true]

/-- **A value that can be a pattern is the same pattern as itself.** -/
theorem IsValue.samePattern_self {value : Cell} (h : IsValue value) (hkey : value.checkKey = .ok ()) :
    Overrides.samePattern value value = true := by
  cases h with
  | null => rfl
  | bool b => cases b <;> rfl
  | int i => exact sameSimpleKey_self (.int i) rfl rfl
  | float x =>
    cases x with
    | nan => rfl
    | number negative magnitude => exact sameSimpleKey_self (.float _) rfl (Quantity.isUndefined_ofBinary rfl)
  | text s => exact beq_self_eq_true s
  | list hitems => cases hkey
  | map hnames hvalues => cases hkey

/-! ## Reading -/

/-- The words and the numbers of a document. -/
theorem isValue_of_scalar {cs rest : List Char} {value : Cell}
    (h : ((wordValue? cs).orElse fun _ => number? cs) = some (value, rest)) : IsValue value := by
  cases hword : wordValue? cs with
  | some answer =>
    rw [hword] at h
    cases h
    obtain ⟨entry, hentry, hanswer⟩ := List.exists_of_findSome?_eq_some hword
    obtain ⟨rest', -, hrest⟩ := Option.map_eq_some_iff.1 hanswer
    obtain ⟨rfl, rfl⟩ := Prod.mk.inj hrest
    simp only [wordValues, List.mem_cons, List.not_mem_nil, or_false] at hentry
    rcases hentry with rfl | rfl | rfl | rfl | rfl | rfl
    · exact .null
    · exact .bool true
    · exact .bool false
    all_goals exact .float _
  | none =>
    rw [hword] at h
    have hnumber : number? cs = some (value, rest) := h
    simp only [number?.eq_def, Option.bind_eq_bind, Option.bind_eq_some_iff] at hnumber
    obtain ⟨whole, -, hnumber⟩ := hnumber
    split at hnumber
    · split at hnumber
      · cases hnumber
      · obtain ⟨digits, -, hdigits⟩ := Option.bind_eq_some_iff.1 hnumber
        cases hdigits
        exact .int _
    · obtain ⟨x, -, hx⟩ := Option.bind_eq_some_iff.1 hnumber
      cases hx
      exact .float x

/-- Objects are made of their members in the order of the first ones under each name. -/
theorem isValue_ofEntries {entries : List (Cell × Cell)} (hnames : ∀ entry ∈ entries, ∃ name, entry.1 = .text name)
    (hvalues : ∀ entry ∈ entries, IsValue entry.2) : IsValue (Cell.ofEntries entries) := by
  refine .map (fun entry hentry => ?_) fun entry hentry => ?_
  · obtain ⟨member, hmember, heq⟩ := List.mem_map.1 (Entries.mem_ofPairs hentry).1
    exact heq ▸ hnames member hmember
  · obtain ⟨member, hmember, heq⟩ := List.mem_map.1 (Entries.mem_ofPairs hentry).2
    exact heq ▸ hvalues member hmember

/-- With some fuel, only values are read, and texts for the names of members. -/
structure ReadsValues (fuel : Nat) : Prop where
  value : ∀ {cs value rest}, value? fuel cs = some (value, rest) → IsValue value
  items : ∀ {cs items rest}, items? fuel cs = some (items, rest) → ∀ item ∈ items, IsValue item
  names : ∀ {cs members rest}, members? fuel cs = some (members, rest) →
    ∀ entry ∈ members, ∃ name, entry.1 = .text name
  values : ∀ {cs members rest}, members? fuel cs = some (members, rest) → ∀ entry ∈ members, IsValue entry.2

namespace ReadsValues

variable {fuel : Nat}

theorem value_succ (h : ReadsValues fuel) {cs rest : List Char} {value : Cell}
    (hread : value? (fuel + 1) cs = some (value, rest)) : IsValue value := by
  rw [value?.eq_def] at hread
  dsimp only at hread
  split at hread
  · -- A text.
    obtain ⟨answer, -, heq⟩ := Option.map_eq_some_iff.1 hread
    cases heq
    exact .text _
  · -- A list.
    split at hread
    · cases hread
      exact .list (by simp)
    · obtain ⟨answer, hanswer, heq⟩ := Option.map_eq_some_iff.1 hread
      cases heq
      exact .list (h.items hanswer)
  · -- An object.
    split at hread
    · cases hread
      exact .map (by simp) (by simp)
    · obtain ⟨answer, hanswer, heq⟩ := Option.map_eq_some_iff.1 hread
      cases heq
      exact isValue_ofEntries (h.names hanswer) (h.values hanswer)
  · exact isValue_of_scalar hread

theorem items_succ (h : ReadsValues fuel) {cs rest : List Char} {items : List Cell}
    (hread : items? (fuel + 1) cs = some (items, rest)) : ∀ item ∈ items, IsValue item := by
  rw [items?] at hread
  obtain ⟨⟨first, afterFirst⟩, hfirst, hread⟩ := Option.bind_eq_some_iff.1 hread
  dsimp only at hread
  split at hread
  · obtain ⟨⟨more, afterMore⟩, hmore, hread⟩ := Option.bind_eq_some_iff.1 hread
    cases hread
    exact List.forall_mem_cons.2 ⟨h.value hfirst, h.items hmore⟩
  · cases hread
    exact List.forall_mem_singleton.2 (h.value hfirst)
  · cases hread

/-- The members are the first one, whose name is a text, and what is read after it. -/
theorem members_succ (h : ReadsValues fuel) {cs rest : List Char} {members : List (Cell × Cell)}
    (hread : members? (fuel + 1) cs = some (members, rest)) :
    ∃ name value more, members = (.text name, value) :: more ∧ IsValue value ∧
      (∀ entry ∈ more, ∃ name, entry.1 = .text name) ∧ ∀ entry ∈ more, IsValue entry.2 := by
  rw [members?.eq_def] at hread
  dsimp only at hread
  split at hread
  · obtain ⟨⟨name, afterName⟩, -, hread⟩ := Option.bind_eq_some_iff.1 hread
    dsimp only at hread
    split at hread
    · obtain ⟨⟨value, afterValue⟩, hvalue, hread⟩ := Option.bind_eq_some_iff.1 hread
      dsimp only at hread
      split at hread
      · obtain ⟨⟨more, afterMore⟩, hmore, hread⟩ := Option.bind_eq_some_iff.1 hread
        cases hread
        exact ⟨name, value, more, rfl, h.value hvalue, h.names hmore, h.values hmore⟩
      · cases hread
        exact ⟨name, value, [], rfl, h.value hvalue, by simp, by simp⟩
      · cases hread
    · cases hread
  · cases hread

end ReadsValues

/-- The readers call each other with less fuel, so one step of each carries the induction. -/
theorem readsValues (fuel : Nat) : ReadsValues fuel := by
  induction fuel with
  | zero => constructor <;> exact fun h => by cases h
  | succ fuel ih =>
    refine ⟨ih.value_succ, ih.items_succ, fun hread => ?_, fun hread => ?_⟩
    · obtain ⟨name, value, more, rfl, -, hnames, -⟩ := ih.members_succ hread
      exact List.forall_mem_cons.2 ⟨⟨name, rfl⟩, hnames⟩
    · obtain ⟨name, value, more, rfl, hvalue, -, hvalues⟩ := ih.members_succ hread
      exact List.forall_mem_cons.2 ⟨hvalue, hvalues⟩

/-- **A document holds a value.** -/
theorem isValue_ofBytes? {data : Bytes} {document : Cell} (h : ofBytes? data = some document) : IsValue document := by
  obtain ⟨text, -, htext⟩ := Option.bind_eq_some_iff.1 h
  rw [ofText?] at htext
  split at htext
  · rename_i value rest hread
    split at htext
    · cases htext
      exact (readsValues _).value hread
    · cases htext
  · cases htext

end Document

end TypedRows
