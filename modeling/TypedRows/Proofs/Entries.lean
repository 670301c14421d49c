import Mathlib.Data.List.Induction
import Mathlib.Data.List.Nodup
import TypedRows.Cell.Equality
import TypedRows.Entries
/-!
# Tables as logs of writes

A table in order of insertion is what is left of a list of writes: each key has the value last written under it
(`Entries.get?_ofPairs`), and the keys stand in the order in which they were first written (`Entries.keys_ofPairs`).
So a search by keys goes through the first writes and takes the value of the last one (`Entries.find?_ofPairs`).
-/

namespace TypedRows.Entries

section

variable {κ α : Type} [BEq κ]

theorem setAll_append (entries earlier later : List (κ × α)) :
    setAll entries (earlier ++ later) = setAll (setAll entries earlier) later := by
  simp [setAll, List.foldl_append]

theorem ofPairs_append_singleton (pairs : List (κ × α)) (pair : κ × α) :
    ofPairs (pairs ++ [pair]) = set (ofPairs pairs) pair.1 pair.2 := by
  rw [ofPairs, setAll_append]
  rfl

theorem mem_set {entries : List (κ × α)} {key : κ} {value : α} {entry : κ × α} (h : entry ∈ set entries key value) :
    (entry.1 = key ∨ entry.1 ∈ entries.map Prod.fst) ∧ (entry.2 = value ∨ entry.2 ∈ entries.map Prod.snd) := by
  induction entries with
  | nil =>
    rw [set, List.mem_singleton] at h
    subst h
    exact ⟨.inl rfl, .inl rfl⟩
  | cons known rest ih =>
    rw [set] at h
    split at h
    · rcases List.mem_cons.1 h with rfl | hrest
      · exact ⟨.inr (by simp), .inl rfl⟩
      · exact ⟨.inr (List.mem_map_of_mem (List.mem_cons_of_mem _ hrest)),
          .inr (List.mem_map_of_mem (List.mem_cons_of_mem _ hrest))⟩
    · rcases List.mem_cons.1 h with rfl | hrest
      · exact ⟨.inr (by simp), .inr (by simp)⟩
      · exact ⟨(ih hrest).1.imp_right (List.mem_cons_of_mem _), (ih hrest).2.imp_right (List.mem_cons_of_mem _)⟩

/-- The keys and the values of a table were written. -/
theorem mem_ofPairs {pairs : List (κ × α)} {entry : κ × α} (h : entry ∈ ofPairs pairs) :
    entry.1 ∈ pairs.map Prod.fst ∧ entry.2 ∈ pairs.map Prod.snd := by
  induction pairs using List.reverseRecOn generalizing entry with
  | nil => cases h
  | append_singleton pairs pair ih =>
    rw [ofPairs_append_singleton] at h
    obtain ⟨hkey, hvalue⟩ := mem_set h
    rw [List.map_append, List.mem_append, List.map_append, List.mem_append]
    constructor
    · rcases hkey with hkey | hkey
      · exact .inr (by simp [hkey])
      · obtain ⟨earlier, hearlier, heq⟩ := List.mem_map.1 hkey
        exact .inl (heq ▸ (ih hearlier).1)
    · rcases hvalue with hvalue | hvalue
      · exact .inr (by simp [hvalue])
      · obtain ⟨earlier, hearlier, heq⟩ := List.mem_map.1 hvalue
        exact .inl (heq ▸ (ih hearlier).2)

/-! ## Writing again -/

/-- A key that equals itself is found after it is set, also if others equal it. -/
theorem isSome_get?_set {key : κ} (hkey : (key == key) = true) (entries : List (κ × α)) (value : α) :
    (get? (set entries key value) key).isSome = true := by
  induction entries with
  | nil => simp [set, get?, hkey]
  | cons entry rest ih =>
    obtain ⟨known, old⟩ := entry
    cases h : known == key with
    | true => simp [set, get?, h]
    | false => simp [set, get?, h, ih]

/-- Setting a key loses none. -/
theorem isSome_get?_set_of_isSome {entries : List (κ × α)} {key : κ} (h : (get? entries key).isSome = true) (other : κ)
    (value : α) : (get? (set entries other value) key).isSome = true := by
  induction entries with
  | nil => cases h
  | cons entry rest ih =>
    obtain ⟨known, old⟩ := entry
    rw [get?] at h
    cases hknown : known == key with
    | true => cases hother : known == other <;> simp [set, get?, hknown, hother]
    | false =>
      rw [hknown, if_neg Bool.false_ne_true] at h
      cases hother : known == other with
      | true => simpa [set, get?, hknown, hother] using h
      | false => simpa [set, get?, hknown, hother] using ih h

/-- Of two values under one key, the later stays. -/
theorem set_set_self {key : κ} (hkey : (key == key) = true) (entries : List (κ × α)) (value value' : α) :
    set (set entries key value) key value' = set entries key value' := by
  induction entries with
  | nil => simp [set, hkey]
  | cons entry rest ih =>
    obtain ⟨known, old⟩ := entry
    cases h : known == key with
    | true => simp [set, h]
    | false => simp [set, h, ih]

/-- A known key that is set after another either takes its place, or they can be set in any order. -/
theorem set_set_of_isSome {entries : List (κ × α)} {other : κ} (h : (get? entries other).isSome = true) (key : κ)
    (value value' : α) :
    set (set entries key value) other value' = set entries other value' ∨
      set (set entries key value) other value' = set (set entries other value') key value := by
  induction entries with
  | nil => cases h
  | cons entry rest ih =>
    obtain ⟨known, old⟩ := entry
    rw [get?] at h
    cases hkey : known == key with
    | true => cases hother : known == other <;> simp [set, hkey, hother]
    | false =>
      cases hother : known == other with
      | true => simp [set, hkey, hother]
      | false =>
        rw [hother, if_neg Bool.false_ne_true] at h
        simpa [set, hkey, hother] using ih h

/-! ## Values -/

/-- The value last written under a key. -/
def lastValue? (pairs : List (κ × α)) (key : κ) : Option α :=
  ((pairs.filter fun pair => pair.1 == key).getLast?).map Prod.snd

theorem lastValue?_append (earlier later : List (κ × α)) (key : κ) :
    lastValue? (earlier ++ later) key = (lastValue? later key).or (lastValue? earlier key) := by
  rw [lastValue?, List.filter_append, List.getLast?_append, Option.map_or]
  rfl

theorem lastValue?_cons (pair : κ × α) (pairs : List (κ × α)) (key : κ) :
    lastValue? (pair :: pairs) key = (lastValue? pairs key).or (if pair.1 == key then some pair.2 else none) := by
  rw [← List.singleton_append, lastValue?_append]
  cases h : pair.1 == key with
  | true => simp [lastValue?, h]
  | false => simp [lastValue?, h]

variable [LawfulBEq κ]

theorem get?_set (entries : List (κ × α)) (key other : κ) (value : α) :
    get? (set entries key value) other = if key == other then some value else get? entries other := by
  by_cases h : key = other
  · subst h
    rw [get?_set_self, if_pos (beq_self_eq_true key)]
  · rw [get?_set_ne entries value h, if_neg (by simpa using h)]

/-- **A key that is set has the value that was last written**, and any other the value that it had. -/
theorem get?_setAll (entries pairs : List (κ × α)) (key : κ) :
    get? (setAll entries pairs) key = (lastValue? pairs key).or (get? entries key) := by
  induction pairs generalizing entries with
  | nil => rfl
  | cons pair pairs ih =>
    have hset := ih (set entries pair.1 pair.2)
    rw [get?_set] at hset
    rw [setAll, List.foldl_cons, lastValue?_cons, Option.or_assoc]
    refine hset.trans ?_
    cases pair.1 == key with
    | true => rfl
    | false => rfl

theorem get?_ofPairs (pairs : List (κ × α)) (key : κ) : get? (ofPairs pairs) key = lastValue? pairs key := by
  rw [ofPairs, get?_setAll, get?, Option.or_none]

theorem get?_eq_none_iff {entries : List (κ × α)} {key : κ} : get? entries key = none ↔ key ∉ entries.map Prod.fst := by
  induction entries with
  | nil => simp [get?]
  | cons entry rest ih =>
    obtain ⟨known, old⟩ := entry
    by_cases h : known = key
    · subst h
      simp [get?]
    · simp [get?, h, Ne.symm h, ih]

/-- A list of keys with a value for each is a table of these values. -/
theorem get?_map_mk (keys : List κ) (value : κ → α) (key : κ) :
    get? (keys.map fun key => (key, value key)) key = if keys.contains key then some (value key) else none := by
  induction keys with
  | nil => rfl
  | cons known keys ih =>
    by_cases h : known = key
    · subst h
      simp [get?]
    · simp [get?, h, Ne.symm h, ih]

/-- Under distinct keys, every entry is found. -/
theorem get?_of_mem {key : κ} {value : α} :
    ∀ {entries : List (κ × α)}, (entries.map Prod.fst).Nodup → (key, value) ∈ entries →
      get? entries key = some value
  | (known, old) :: rest, hnodup, hmem => by
    rw [List.map_cons, List.nodup_cons] at hnodup
    rcases List.mem_cons.1 hmem with heq | hrest
    · obtain ⟨rfl, rfl⟩ := Prod.mk.inj heq
      simp [get?]
    · have hne : (known == key) = false := by
        rw [beq_eq_false_iff_ne]
        rintro rfl
        exact hnodup.1 (List.mem_map.2 ⟨(known, value), hrest, rfl⟩)
      rw [get?, hne]
      exact get?_of_mem hnodup.2 hrest

theorem lastValue?_of_not_mem {key : κ} {pairs : List (κ × α)} (h : key ∉ pairs.map Prod.fst) :
    lastValue? pairs key = none := by
  have hfilter : pairs.filter (fun pair => pair.1 == key) = [] := by
    rw [List.filter_eq_nil_iff]
    intro pair hpair hkey
    exact h (List.mem_map.2 ⟨pair, hpair, eq_of_beq hkey⟩)
  rw [lastValue?, hfilter]
  rfl

/-- Under distinct keys, the value last written is the one that is found. -/
theorem lastValue?_of_nodup {pairs : List (κ × α)} (hnodup : (pairs.map Prod.fst).Nodup) (key : κ) :
    lastValue? pairs key = get? pairs key := by
  induction pairs with
  | nil => rfl
  | cons pair pairs ih =>
    rw [List.map_cons, List.nodup_cons] at hnodup
    rw [lastValue?_cons, get?]
    by_cases h : pair.1 = key
    · subst h
      rw [lastValue?_of_not_mem hnodup.1, Option.none_or, beq_self_eq_true, if_pos rfl, if_pos rfl]
    · have hne : (pair.1 == key) = false := by simpa using h
      rw [ih hnodup.2, hne]
      exact Option.or_none

/-- Under distinct keys, every key has the value that it was set to. -/
theorem get?_setAll_of_mem {key : κ} {value : α} {entries pairs : List (κ × α)}
    (hnodup : (pairs.map Prod.fst).Nodup) (h : (key, value) ∈ pairs) :
    get? (setAll entries pairs) key = some value := by
  rw [get?_setAll, lastValue?_of_nodup hnodup, get?_of_mem hnodup h]
  rfl

/-! ## Keys -/

/-- A key that is set for the first time goes to the end. -/
theorem keys_set (entries : List (κ × α)) (key : κ) (value : α) :
    (set entries key value).map Prod.fst =
      if key ∈ entries.map Prod.fst then entries.map Prod.fst else entries.map Prod.fst ++ [key] := by
  induction entries with
  | nil => rfl
  | cons entry rest ih =>
    obtain ⟨known, old⟩ := entry
    by_cases h : known = key
    · subst h
      simp [set]
    · have hne : (known == key) = false := by simpa using h
      rw [set, hne, if_neg (by simp), List.map_cons, ih]
      by_cases hmem : key ∈ rest.map Prod.fst
      · simp [hmem]
      · simp [hmem, Ne.symm h]

/-- **The keys stand in the order of their first writes.** -/
theorem keys_ofPairs (pairs : List (κ × α)) :
    (ofPairs pairs).map Prod.fst = (pairs.map Prod.fst).eraseDups := by
  -- From the right, since the table is changed by the last write.
  induction pairs using List.reverseRecOn with
  | nil => rfl
  | append_singleton pairs pair ih =>
    rw [ofPairs_append_singleton, keys_set, ih, List.map_append, List.eraseDups_append]
    by_cases h : pair.1 ∈ pairs.map Prod.fst
    · have hnone : ([pair].map Prod.fst).removeAll (pairs.map Prod.fst) = [] := by
        simp [List.removeAll, h]
      rw [if_pos (List.mem_eraseDups.2 h), hnone]
      simp
    · have hone : ([pair].map Prod.fst).removeAll (pairs.map Prod.fst) = [pair.1] := by
        simp [List.removeAll, h]
      rw [if_neg (fun hmem => h (List.mem_eraseDups.1 hmem)), hone]
      rfl

theorem nodup_keys_ofPairs (pairs : List (κ × α)) : ((ofPairs pairs).map Prod.fst).Nodup := by
  induction pairs using List.reverseRecOn with
  | nil => exact List.nodup_nil
  | append_singleton pairs pair ih =>
    rw [ofPairs_append_singleton, keys_set]
    by_cases h : pair.1 ∈ (ofPairs pairs).map Prod.fst
    · rwa [if_pos h]
    · rw [if_neg h, ← List.concat_eq_append]
      exact ih.concat h

/-- What is last written among the entries of a table is what was last written at all. -/
theorem lastValue?_ofPairs (pairs : List (κ × α)) (key : κ) : lastValue? (ofPairs pairs) key = lastValue? pairs key := by
  rw [lastValue?_of_nodup (nodup_keys_ofPairs pairs), get?_ofPairs]

/-- **A search by keys finds the first key written that passes, with the value last written under it.** -/
theorem find?_ofPairs (pairs : List (κ × α)) (p : κ → Bool) :
    ((ofPairs pairs).find? fun entry => p entry.1).map Prod.snd =
      ((pairs.map Prod.fst).eraseDups.find? p).bind (lastValue? pairs) := by
  rw [← keys_ofPairs, List.find?_map]
  change _ = (((ofPairs pairs).find? fun entry => p entry.1).map Prod.fst).bind (lastValue? pairs)
  cases hfind : (ofPairs pairs).find? fun entry => p entry.1 with
  | none => rfl
  | some entry =>
    have hvalue : lastValue? pairs entry.1 = some entry.2 := by
      rw [← get?_ofPairs]
      exact get?_of_mem (nodup_keys_ofPairs pairs) (List.mem_of_find?_eq_some hfind)
    exact hvalue.symm

/-! ## The order of writes -/

/-- A known key and another can be set in any order. -/
theorem set_comm {entries : List (κ × α)} {key other : κ} (h : (get? entries other).isSome = true) (hne : key ≠ other)
    (value value' : α) : set (set entries key value) other value' = set (set entries other value') key value := by
  induction entries with
  | nil => cases h
  | cons entry rest ih =>
    obtain ⟨known, old⟩ := entry
    rw [get?] at h
    by_cases hkey : known = key
    · have hother : known ≠ other := fun heq => hne (hkey.symm.trans heq)
      simp [set, hkey, hne]
    · by_cases hother : known = other
      · simp [set, hother, Ne.symm hne]
      · rw [if_neg (by simpa using hother)] at h
        simp [set, hkey, hother, ih h]

theorem set_setAll_of_not_mem {entries pairs : List (κ × α)} {key : κ} (h : (get? entries key).isSome = true)
    (hkey : key ∉ pairs.map Prod.fst) (value : α) :
    set (setAll entries pairs) key value = setAll (set entries key value) pairs := by
  induction pairs generalizing entries with
  | nil => rfl
  | cons pair pairs ih =>
    rw [List.map_cons, List.mem_cons, not_or] at hkey
    have hnext := ih (isSome_get?_set_of_isSome h pair.1 pair.2) hkey.2
    rw [set_comm h (Ne.symm hkey.1)] at hnext
    exact hnext

theorem setAll_set {pairs : List (κ × α)} (hnodup : (pairs.map Prod.fst).Nodup) (entries : List (κ × α)) (key : κ)
    (value : α) : setAll entries (set pairs key value) = set (setAll entries pairs) key value := by
  induction pairs generalizing entries with
  | nil => rfl
  | cons pair pairs ih =>
    obtain ⟨known, old⟩ := pair
    rw [List.map_cons, List.nodup_cons] at hnodup
    by_cases h : known = key
    · subst h
      have hknown := isSome_get?_set (beq_self_eq_true known) entries old
      have hset := set_setAll_of_not_mem hknown hnodup.1 value
      rw [set_set_self (beq_self_eq_true known)] at hset
      rw [set, if_pos (beq_self_eq_true known)]
      exact hset.symm
    · rw [set, if_neg (by simpa using h)]
      exact ih hnodup.2 _

/-- **Setting what a table holds sets what was written to it**, in the same order. -/
theorem setAll_ofPairs (entries pairs : List (κ × α)) : setAll entries (ofPairs pairs) = setAll entries pairs := by
  induction pairs using List.reverseRecOn with
  | nil => rfl
  | append_singleton pairs pair ih =>
    rw [ofPairs_append_singleton, setAll_set (nodup_keys_ofPairs pairs), ih, setAll_append]
    rfl

end

/-! ## Tables under texts -/

/-- A table with texts for its keys. -/
def underTexts (entries : List (String × Cell)) : List (Cell × Cell) :=
  entries.map fun entry => (Cell.text entry.1, entry.2)

theorem get?_map_text (entries : List (String × Cell)) (name : String) :
    get? (entries.map fun entry => (Cell.text entry.1, entry.2)) (.text name) = get? entries name := by
  induction entries with
  | nil => rfl
  | cons entry entries ih =>
    have hkey : (Cell.text entry.1 == Cell.text name) = (entry.1 == name) := rfl
    rw [List.map_cons, get?, get?, hkey, ih]

theorem set_underTexts (entries : List (String × Cell)) (name : String) (value : Cell) :
    set (underTexts entries) (.text name) value = underTexts (set entries name value) := by
  induction entries with
  | nil => rfl
  | cons entry entries ih =>
    have hkey : (Cell.text entry.1 == Cell.text name) = (entry.1 == name) := rfl
    rw [underTexts, List.map_cons, set, set, hkey]
    cases entry.1 == name with
    | true => rfl
    | false => exact congrArg ((Cell.text entry.1, entry.2) :: ·) ih

theorem setAll_underTexts (entries pairs : List (String × Cell)) :
    setAll (underTexts entries) (underTexts pairs) = underTexts (setAll entries pairs) := by
  induction pairs generalizing entries with
  | nil => rfl
  | cons pair pairs ih =>
    have hset := ih (set entries pair.1 pair.2)
    rw [← set_underTexts] at hset
    exact hset

end TypedRows.Entries
