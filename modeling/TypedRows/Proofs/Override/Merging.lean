import TypedRows.Proofs.Override.Log
/-!
# Files merged into overrides

A file in shape writes the patterns and then the columns of each dialect (`documentWrites?`). Merging runs through the
same parts and succeeds at each of them (`Merges`), so what it leaves is in step with the log to which the writes of
the file are added. A file that is not in shape has no writes to tell of.

Main statement: `merges_mergeDocument`.
-/

namespace TypedRows

open Text (IsAscii)

namespace Overrides

/-! ## Documents -/

/-- The names of an object with their values. -/
def objectOf? : Cell → Option (List (String × Cell))
  | .map entries => entries.mapM fun entry =>
    match entry.1 with
    | .text name => some (name, entry.2)
    | _ => none
  | _ => none

/-- The member of an object that is an object itself; one that is missing is empty. -/
def memberOf? (members : List (String × Cell)) (name : String) : Option (List (String × Cell)) :=
  match Entries.get? members name with
  | none => some []
  | some value => objectOf? value

/-- What a file writes for a dialect: its patterns, then its columns. -/
def sectionWrites? (dialect : String) (value : Cell) : Option (List Write) := do
  let members ← objectOf? value
  let patterns ← memberOf? members "patterns"
  let columns ← memberOf? members "columns"
  some (patterns.map (fun entry => ⟨dialect, .pattern entry.1, entry.2⟩) ++
    columns.map fun entry => ⟨dialect, .column entry.1, entry.2⟩)

/-- What a file writes, dialect by dialect. A document of another shape has no writes to tell of. -/
def documentWrites? (document : Cell) : Option (List Write) := do
  let sections ← objectOf? document
  let writes ← sections.mapM fun entry => sectionWrites? entry.1 entry.2
  some writes.flatten

theorem eq_map_of_objectOf? {value : Cell} {named : List (String × Cell)} (h : objectOf? value = some named) :
    value = .map (Entries.underTexts named) := by
  cases value with
  | map entries =>
    congr 1
    rw [objectOf?] at h
    induction entries generalizing named with
    | nil =>
      cases h
      rfl
    | cons entry entries ih =>
      obtain ⟨key, value⟩ := entry
      rw [List.mapM_cons] at h
      cases key with
      | text name =>
        cases hrest : entries.mapM fun entry : Cell × Cell =>
            match entry.1 with
            | .text name => some (name, entry.2)
            | _ => none with
        | none => simp [hrest] at h
        | some rest =>
          simp only [hrest, Option.bind_eq_bind, Option.bind_some, Option.pure_def, Option.some.injEq] at h
          subst h
          rw [ih hrest]
          rfl
      | _ => simp at h
  | _ => cases h

/-! ## Merging -/

/-- The outcome of merging and the overrides that it leaves. -/
def Merging.runOn {α : Type} (m : Merging α) (o : Overrides) : Except Error α × Overrides :=
  StateT.run (m := Id) (ExceptT.run m) o

theorem Merging.runOn_seq (m m' : Merging Unit) (o : Overrides) :
    (do m; m' : Merging Unit).runOn o =
      match m.runOn o with
      | (.ok _, o') => m'.runOn o'
      | (.error e, o') => (.error e, o') := by
  simp only [runOn, bind, ExceptT.bind, ExceptT.mk, ExceptT.run, StateT.run, StateT.bind]
  cases m o with
  | mk outcome o' => cases outcome <;> rfl

/-- Merging succeeds and writes: overrides that were in step with a log are so with the longer log. -/
def Merges (m : Merging Unit) (ws : List Write) : Prop :=
  ∀ o log, Reflects o log → ∃ o', m.runOn o = (.ok (), o') ∧ Reflects o' (log ++ ws)

theorem merges_pure : Merges (pure ()) [] := by
  intro o log h
  exact ⟨o, rfl, by rwa [List.append_nil]⟩

theorem Merges.seq {m m' : Merging Unit} {ws ws' : List Write} (h : Merges m ws) (h' : Merges m' ws') :
    Merges (do m; m') (ws ++ ws') := by
  intro o log hreflects
  obtain ⟨o', hrun, hreflects'⟩ := h o log hreflects
  obtain ⟨o'', hrun', hreflects''⟩ := h' o' _ hreflects'
  refine ⟨o'', ?_, by rwa [← List.append_assoc]⟩
  rw [Merging.runOn_seq, hrun]
  exact hrun'

/-- A change of one section merges what it sets. -/
theorem merges_modifySection {dialect : String} {change : OverrideSection → OverrideSection} {ws : List Write}
    (hdialect : ∀ w ∈ ws, w.dialect = dialect)
    (hcolumns : ∀ s key, Entries.get? (change s).columns key =
      (Entries.lastValue? (ws.filterMap Write.column?) key).or (Entries.get? s.columns key))
    (hpatterns : ∀ s, (change s).patterns =
      Entries.setAll s.patterns (Entries.underTexts (ws.filterMap Write.pattern?))) :
    Merges (modifySection dialect change) ws :=
  fun o _ h => ⟨o.update dialect change, rfl, h.update hdialect hcolumns hpatterns⟩

theorem members_underTexts (entries : List (String × Cell)) :
    members (.map (Entries.underTexts entries)) = .ok entries := by
  simp [members, Entries.underTexts, Function.comp_def, textOf, Cell.asText?, Cell.relaxed]

/-- The patterns of an object are written in its order. -/
theorem merges_mergePatterns (dialect : String) (patterns : List (String × Cell)) :
    Merges (mergePatterns dialect (.map (Entries.underTexts patterns)))
      (patterns.map fun entry => ⟨dialect, .pattern entry.1, entry.2⟩) := by
  refine merges_modifySection ?_ ?_ ?_
  · rintro w hw
    obtain ⟨entry, -, rfl⟩ := List.mem_map.1 hw
    rfl
  · intro s key
    simp [Write.column?, Entries.lastValue?, Function.comp_def]
  · intro s
    simp [Write.pattern?, Function.comp_def, foldl_setPattern_underTexts]

/-- The columns of an object are written in its order; its names are lowered on the way. -/
theorem merges_mergeColumns (dialect : String) {columns : List (String × Cell)}
    (hascii : ∀ entry ∈ columns, IsAscii entry.1.toList) :
    Merges (mergeColumns dialect (.map (Entries.underTexts columns)))
      (columns.map fun entry => ⟨dialect, .column entry.1, entry.2⟩) := by
  have hlower : columns.map (fun entry => (Text.lower entry.1, entry.2)) =
      (columns.map fun entry => (⟨dialect, .column entry.1, entry.2⟩ : Write)).filterMap Write.column? := by
    rw [List.filterMap_map]
    simp only [Function.comp_def, Write.column?]
    rw [List.filterMap_eq_map']
    exact List.map_congr_left fun entry hentry => by rw [Text.lower_of_isAscii (hascii entry hentry)]
  have hmerge : mergeColumns dialect (.map (Entries.underTexts columns)) = modifySection dialect fun s =>
      { s with columns := Entries.setAll s.columns (Entries.ofPairs (columns.map fun entry =>
        (Text.lower entry.1, entry.2))) } := by
    rw [mergeColumns, members_underTexts]
    rfl
  rw [hmerge]
  refine merges_modifySection ?_ ?_ ?_
  · rintro w hw
    obtain ⟨entry, -, rfl⟩ := List.mem_map.1 hw
    rfl
  · intro s key
    rw [Entries.get?_setAll, Entries.lastValue?_ofPairs, hlower]
  · intro s
    simp [Write.pattern?, Entries.setAll, Entries.underTexts, Function.comp_def]

/-- The merging of a member of an object, if it is there. -/
def mergeMember (member : Option Cell) (merge : Cell → Merging Unit) : Merging Unit :=
  match member with
  | some value => merge value
  | none => pure ()

theorem mergeSection_map (dialect : String) (entries : List (Cell × Cell)) :
    mergeSection dialect (.map entries) =
      (do
        modifySection dialect id
        mergeMember (Entries.get? entries (.text "patterns")) (mergePatterns dialect)
        mergeMember (Entries.get? entries (.text "columns")) (mergeColumns dialect)) := by
  have hmember : ∀ name, member? (.map entries) name = .ok (Entries.get? entries (.text name)) := fun _ => rfl
  rw [mergeSection, hmember, hmember]
  cases Entries.get? entries (.text "patterns") with
  | none => cases Entries.get? entries (.text "columns") <;> rfl
  | some patterns => cases Entries.get? entries (.text "columns") <;> rfl

theorem merges_mergeMember {members entries : List (String × Cell)} {name : String} {merge : Cell → Merging Unit}
    {write : String × Cell → Write} (h : memberOf? members name = some entries)
    (hmerge : Merges (merge (.map (Entries.underTexts entries))) (entries.map write)) :
    Merges (mergeMember (Entries.get? (Entries.underTexts members) (.text name)) merge) (entries.map write) := by
  rw [memberOf?] at h
  rw [Entries.underTexts, Entries.get?_map_text]
  cases hget : Entries.get? members name with
  | none =>
    rw [hget] at h
    cases h
    exact merges_pure
  | some value =>
    rw [hget] at h
    obtain rfl := eq_map_of_objectOf? h
    exact hmerge

/-- **The section of a dialect in a file is merged**: its patterns are written, then its columns. -/
theorem merges_mergeSection {engine : SearchEngine} {dialect : String} {value : Cell} {ws : List Write}
    (h : sectionWrites? dialect value = some ws) (hproper : ∀ w ∈ ws, w.IsProper engine) :
    Merges (mergeSection dialect value) ws := by
  simp only [sectionWrites?, Option.bind_eq_bind, Option.bind_eq_some_iff, Option.some.injEq] at h
  obtain ⟨members, hmembers, patterns, hpatterns, columns, hcolumns, rfl⟩ := h
  obtain rfl := eq_map_of_objectOf? hmembers
  have hascii : ∀ entry ∈ columns, IsAscii entry.1.toList := by
    intro entry hentry
    exact hproper _ (List.mem_append_right _ (List.mem_map.2 ⟨entry, hentry, rfl⟩))
  have hopen : Merges (modifySection dialect id) [] :=
    merges_modifySection (by simp) (fun _ _ => rfl) (fun _ => rfl)
  rw [mergeSection_map]
  exact hopen.seq ((merges_mergeMember hpatterns (merges_mergePatterns dialect patterns)).seq
    (merges_mergeMember hcolumns (merges_mergeColumns dialect hascii)))

/-- **A document is merged**, section by section. -/
theorem merges_mergeDocument {engine : SearchEngine} {document : Cell} {ws : List Write}
    (h : documentWrites? document = some ws) (hproper : ∀ w ∈ ws, w.IsProper engine) :
    Merges (mergeDocument document) ws := by
  simp only [documentWrites?, Option.bind_eq_bind, Option.bind_eq_some_iff, Option.some.injEq] at h
  obtain ⟨sections, hsections, writes, hwrites, rfl⟩ := h
  obtain rfl := eq_map_of_objectOf? hsections
  have hmerge : mergeDocument (.map (Entries.underTexts sections)) =
      sections.forM fun entry => mergeSection entry.1 entry.2 := by
    rw [mergeDocument, members_underTexts]
    rfl
  rw [hmerge]
  clear hmerge hsections
  induction sections generalizing writes with
  | nil =>
    cases hwrites
    exact merges_pure
  | cons entry sections ih =>
    simp only [List.mapM_cons, Option.bind_eq_bind, Option.bind_eq_some_iff, Option.pure_def, Option.some.injEq]
      at hwrites
    obtain ⟨first, hfirst, rest, hrest, rfl⟩ := hwrites
    rw [List.flatten_cons] at hproper ⊢
    exact (merges_mergeSection hfirst fun w hw => hproper w (List.mem_append_left _ hw)).seq
      (ih rest hrest fun w hw => hproper w (List.mem_append_right _ hw))

end Overrides

end TypedRows
