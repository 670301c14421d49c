import TypedRows.Text.Lines
/-!
# Joined lines

`joinLines` writes every line end as a line feed (`unifyBreaks`) and drops one line feed at the end (`dropLastBreak`):
`toList_joinLines`, from the pieces of a text (`intercalate_pieces`) and the line that is none
(`intercalate_dropLastEmpty`).

So the result has no carriage return (`not_mem_joinLines`), and a second call can only drop one more line feed. It does
so exactly if the text ends in an empty line (`joinLines_joinLines_eq_iff`): `joinLines` is not idempotent.
-/

namespace TypedRows.Text

/-! ## Line ends -/

/-- The text with every line end written as a line feed. -/
def unifyBreaks : List Char → List Char
  | [] => []
  | '\r' :: '\n' :: rest => '\n' :: unifyBreaks rest
  | '\r' :: rest => '\n' :: unifyBreaks rest
  | c :: rest => c :: unifyBreaks rest

/-- The text without a line feed at its end. -/
def dropLastBreak (cs : List Char) : List Char :=
  if cs.getLast? = some '\n' then cs.dropLast else cs

theorem not_mem_unifyBreaks (cs : List Char) : '\r' ∉ unifyBreaks cs := by
  fun_induction unifyBreaks cs with
  | case1 => simp
  | case2 rest ih => simpa using ih
  | case3 rest _ ih => simpa using ih
  | case4 c rest _ hcr ih =>
    rw [List.mem_cons, not_or]
    exact ⟨fun h => hcr h.symm, ih⟩

theorem unifyBreaks_of_not_mem {cs : List Char} (h : '\r' ∉ cs) : unifyBreaks cs = cs := by
  fun_induction unifyBreaks cs with
  | case1 => rfl
  | case2 rest _ => simp at h
  | case3 rest _ _ => simp at h
  | case4 c rest _ _ ih =>
    rw [List.mem_cons, not_or] at h
    rw [ih h.2]

theorem dropLastBreak_of_ne {cs : List Char} (h : cs.getLast? ≠ some '\n') : dropLastBreak cs = cs := by
  rw [dropLastBreak, if_neg h]

theorem dropLastBreak_append (cs : List Char) : dropLastBreak (cs ++ ['\n']) = cs := by
  simp [dropLastBreak]

theorem dropLastBreak_sublist (cs : List Char) : (dropLastBreak cs).Sublist cs := by
  unfold dropLastBreak
  split
  · exact List.dropLast_sublist cs
  · exact List.Sublist.refl cs

theorem dropLastBreak_eq_self_iff {cs : List Char} : dropLastBreak cs = cs ↔ cs.getLast? ≠ some '\n' := by
  refine ⟨fun h hlast => ?_, dropLastBreak_of_ne⟩
  obtain ⟨front, rfl⟩ := List.getLast?_eq_some_iff.1 hlast
  rw [dropLastBreak_append] at h
  have hlength := congrArg List.length h
  simp at hlength

/-! ## Pieces -/

theorem pieces_ne_nil (cs : List Char) : pieces cs ≠ [] := by
  fun_induction pieces cs with
  | case5 c rest _ _ _ ih => cases h : pieces rest <;> simp_all
  | _ => simp

theorem modifyHead_nil_append (ps : List (List Char)) : ps.modifyHead ([] ++ ·) = ps := by
  cases ps <;> simp

theorem dropLastEmpty_cons {ps : List (List Char)} (h : ps ≠ []) (piece : List Char) :
    dropLastEmpty (piece :: ps) = piece :: dropLastEmpty ps := by
  cases ps with
  | nil => exact absurd rfl h
  | cons next ps =>
    rw [dropLastEmpty, dropLastEmpty, List.getLast?_cons_cons]
    split <;> simp

/-- A piece has no character of a line end. -/
theorem not_mem_of_mem_pieces {cs piece : List Char} (h : piece ∈ pieces cs) : '\r' ∉ piece ∧ '\n' ∉ piece := by
  fun_induction pieces cs generalizing piece with
  | case1 => simp_all
  | case2 rest ih | case3 rest _ ih | case4 rest ih =>
    rcases List.mem_cons.1 h with rfl | hrest
    · simp
    · exact ih hrest
  | case5 c rest _ hcr hlf ih =>
    cases hrest : pieces rest with
    | nil => exact absurd hrest (pieces_ne_nil rest)
    | cons first others =>
      rw [hrest] at h ih
      rcases List.mem_cons.1 h with rfl | hother
      · have hfirst := ih List.mem_cons_self
        simp only [List.mem_cons, not_or]
        exact ⟨⟨fun h => hcr h.symm, hfirst.1⟩, fun h => hlf h.symm, hfirst.2⟩
      · exact ih (List.mem_cons_of_mem _ hother)

/-- **Line feeds between the pieces** stand where the line ends were. -/
theorem intercalate_pieces (cs : List Char) : ['\n'].intercalate (pieces cs) = unifyBreaks cs := by
  fun_induction pieces cs with
  | case1 => rfl
  | case2 rest ih | case3 rest _ ih | case4 rest ih =>
    rw [List.intercalate_cons_of_ne_nil (pieces_ne_nil rest), ih]
    simp_all [unifyBreaks]
  | case5 c rest _ _ _ ih =>
    cases hrest : pieces rest with
    | nil => exact absurd hrest (pieces_ne_nil rest)
    | cons first others =>
      rw [hrest] at ih
      simp_all [unifyBreaks]

theorem intercalate_concat {front : List (List Char)} (h : front ≠ []) (last : List Char) :
    ['\n'].intercalate (front ++ [last]) = ['\n'].intercalate front ++ '\n' :: last := by
  induction front with
  | nil => exact absurd rfl h
  | cons piece front ih =>
    by_cases hfront : front = []
    · simp [hfront]
    · rw [List.cons_append, List.intercalate_cons_of_ne_nil (by simp), ih hfront,
        List.intercalate_cons_of_ne_nil hfront]
      simp

/-- An empty piece at the end is a line feed at the end. -/
theorem intercalate_dropLastEmpty {ps : List (List Char)} (h : ∀ piece ∈ ps, '\n' ∉ piece) :
    ['\n'].intercalate (dropLastEmpty ps) = dropLastBreak (['\n'].intercalate ps) := by
  rcases List.eq_nil_or_concat ps with rfl | ⟨front, last, rfl⟩
  · rfl
  · by_cases hlast : last = []
    · subst hlast
      by_cases hfront : front = []
      · subst hfront
        rfl
      · rw [List.concat_eq_append, intercalate_concat hfront, dropLastBreak_append]
        simp [dropLastEmpty]
    · -- The last character is one of the last piece.
      obtain ⟨c, hc⟩ : ∃ c, last.getLast? = some c := ⟨_, List.getLast?_eq_some_getLast hlast⟩
      have hend : (['\n'].intercalate (front ++ [last])).getLast? = some c := by
        by_cases hfront : front = []
        · simpa [hfront] using hc
        · rw [intercalate_concat hfront]
          simp [List.getLast?_cons, hc]
      have hne : some c ≠ some '\n' := by
        rintro ⟨⟩
        exact h last (by simp) (List.mem_of_getLast? hc)
      rw [List.concat_eq_append, dropLastBreak_of_ne (hend ▸ hne), dropLastEmpty]
      simp [hlast]

/-! ## Joined lines -/

theorem toList_joinLines (text : String) : (joinLines text).toList = dropLastBreak (unifyBreaks text.toList) := by
  rw [joinLines, String.toList_ofList, lines, intercalate_dropLastEmpty fun piece h => (not_mem_of_mem_pieces h).2,
    intercalate_pieces]

/-- Joined lines have no carriage return. -/
theorem not_mem_joinLines (text : String) : '\r' ∉ (joinLines text).toList := by
  rw [toList_joinLines]
  exact fun h => not_mem_unifyBreaks _ ((dropLastBreak_sublist _).subset h)

/-- Of a text without carriage returns, all that is dropped is a line feed at its end. -/
theorem joinLines_of_not_mem {text : String} (h : '\r' ∉ text.toList) :
    joinLines text = String.ofList (dropLastBreak text.toList) := by
  rw [← String.toList_inj, toList_joinLines, unifyBreaks_of_not_mem h, String.toList_ofList]

/-- The text ends in an empty line: its last two line ends follow each other. -/
def EndsInEmptyLine (text : String) : Prop := ['\n', '\n'] <:+ unifyBreaks text.toList

instance (text : String) : Decidable (EndsInEmptyLine text) :=
  inferInstanceAs (Decidable (_ <:+ _))

/-- The joined lines end in a line feed if the text ends in an empty line, and only then. -/
theorem getLast?_joinLines_iff {text : String} :
    (joinLines text).toList.getLast? = some '\n' ↔ EndsInEmptyLine text := by
  rw [toList_joinLines, EndsInEmptyLine]
  generalize unifyBreaks text.toList = cs
  constructor
  · intro h
    by_cases hlast : cs.getLast? = some '\n'
    · obtain ⟨front, rfl⟩ := List.getLast?_eq_some_iff.1 hlast
      rw [dropLastBreak_append] at h
      obtain ⟨front', rfl⟩ := List.getLast?_eq_some_iff.1 h
      exact ⟨front', by simp⟩
    · rw [dropLastBreak_of_ne hlast] at h
      exact absurd h hlast
  · rintro ⟨front, rfl⟩
    have hsplit : front ++ ['\n', '\n'] = (front ++ ['\n']) ++ ['\n'] := by simp
    rw [hsplit, dropLastBreak_append, List.getLast?_concat]

/-- **Joining twice is joining once** exactly for the texts that do not end in an empty line. -/
theorem joinLines_joinLines_eq_iff {text : String} :
    joinLines (joinLines text) = joinLines text ↔ ¬ EndsInEmptyLine text := by
  rw [joinLines_of_not_mem (not_mem_joinLines text), ← getLast?_joinLines_iff, ← ne_eq,
    ← dropLastBreak_eq_self_iff, ← String.toList_inj, String.toList_ofList]

end TypedRows.Text
