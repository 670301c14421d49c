/-!
# Tables in order of insertion

A table is a list of keys with their values, each key once. `set` replaces the value of a known key in
its place and puts a new key at the end, so the order of the keys is the order in which they were first
set.
-/

namespace TypedRows.Entries

variable {κ α : Type} [BEq κ]

def get? (entries : List (κ × α)) (key : κ) : Option α :=
  match entries with
  | [] => none
  | (known, value) :: rest => if known == key then some value else get? rest key

def set (entries : List (κ × α)) (key : κ) (value : α) : List (κ × α) :=
  match entries with
  | [] => [(key, value)]
  | (known, old) :: rest =>
    if known == key then (known, value) :: rest else (known, old) :: set rest key value

/-- The table with the keys of a list set one after another. -/
def setAll (entries : List (κ × α)) (pairs : List (κ × α)) : List (κ × α) :=
  pairs.foldl (fun table pair => set table pair.1 pair.2) entries

/-- The table in which the keys of a list were set one after another. -/
def ofPairs (pairs : List (κ × α)) : List (κ × α) := setAll [] pairs

theorem get?_set_self [LawfulBEq κ] (entries : List (κ × α)) (key : κ) (value : α) :
    get? (set entries key value) key = some value := by
  induction entries with
  | nil => simp [set, get?]
  | cons entry rest ih =>
    obtain ⟨known, old⟩ := entry
    by_cases h : known == key <;> simp [set, get?, h, ih]

theorem get?_set_ne [LawfulBEq κ] (entries : List (κ × α)) {key other : κ} (value : α)
    (ne : key ≠ other) : get? (set entries key value) other = get? entries other := by
  induction entries with
  | nil => simp [set, get?, ne]
  | cons entry rest ih =>
    obtain ⟨known, old⟩ := entry
    by_cases h : (known == key) = true
    · have : known = key := eq_of_beq h
      subst this
      simp [set, get?, ne]
    · by_cases h' : (known == other) = true <;> simp [set, get?, h, h', ih]

end TypedRows.Entries
