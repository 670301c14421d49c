import TypedRows.Proofs.Environment.Consultation
import TypedRows.Proofs.Override.Merging
/-!
# Files of any shape

A file is read here as the list of its parts in the order in which they are merged (`fileParts`): each is an entry, or
the failure of a part that is out of shape. Merging adds the entries one by one, as the single calls do, up to the
first part out of shape (`follows_merge`); the entries behind it are not added, and those before it stay. So loading is
all or nothing only if there is no such part, or if one of the two sides of it says nothing new.

Overrides are compared by what a look-up can see of them (`Alike`), since a file also opens sections that stay empty.

Main statement: `load_allOrNothing_iff`.
-/

namespace TypedRows

/-! ## What a look-up can see -/

/-- Sections with the same patterns in the same order, and with the same types under all names. -/
structure OverrideSection.Alike (s s' : OverrideSection) : Prop where
  patterns : s.patterns = s'.patterns
  columns : ∀ key, Entries.get? s.columns key = Entries.get? s'.columns key

theorem OverrideSection.Alike.refl (s : OverrideSection) : s.Alike s := ⟨rfl, fun _ => rfl⟩

namespace Overrides

/-- Overrides of which the sections of all dialects are alike. -/
def Alike (o o' : Overrides) : Prop := ∀ dialect, (o.sectionOf dialect).Alike (o'.sectionOf dialect)

namespace Alike

variable {o o' o'' : Overrides}

theorem refl (o : Overrides) : o.Alike o := fun _ => .refl _

theorem symm (h : o.Alike o') : o'.Alike o := fun dialect =>
  ⟨(h dialect).patterns.symm, fun key => ((h dialect).columns key).symm⟩

theorem trans (h : o.Alike o') (h' : o'.Alike o'') : o.Alike o'' := fun dialect =>
  ⟨(h dialect).patterns.trans (h' dialect).patterns,
    fun key => ((h dialect).columns key).trans ((h' dialect).columns key)⟩

end Alike

/-- Every look-up has the same outcome. -/
def SameLookups (o o' : Overrides) : Prop :=
  ∀ (dialect : String) (table column : Option String), o.lookup dialect table column = o'.lookup dialect table column

theorem lookup_of_unnamed (o : Overrides) (dialect : String) (table : Option String) {column : Option String}
    (h : column = none ∨ column = some "") : o.lookup dialect table column = .ok none := by
  unfold lookup
  rcases h with rfl | rfl <;> cases Entries.get? o.sections dialect <;> rfl

/-- **Overrides that are alike are looked up alike.** -/
theorem Alike.sameLookups {o o' : Overrides} (h : o.Alike o') : SameLookups o o' := by
  intro dialect table column
  by_cases hunnamed : column = none ∨ column = some ""
  · rw [lookup_of_unnamed o dialect table hunnamed, lookup_of_unnamed o' dialect table hunnamed]
  · obtain ⟨name, rfl⟩ := Option.ne_none_iff_exists'.1 fun hnone => hunnamed (.inl hnone)
    have hname : name ≠ "" := fun hempty => hunnamed (.inr (congrArg some hempty))
    rw [lookup_eq _ o dialect table hname, lookup_eq _ o' dialect table hname, qualified?_eq, qualified?_eq]
    simp only [(h dialect).columns, (h dialect).patterns]

/-! ## Entries -/

/-- One type that is given for the columns of a name or for a pattern. -/
inductive Entry where
  | column (dialect name : String) (type : Cell)
  | pattern (dialect : String) (source type : Cell)

namespace Entry

def dialect : Entry → String
  | .column dialect .. | .pattern dialect .. => dialect

/-- A section with an entry added. -/
def addTo (s : OverrideSection) : Entry → OverrideSection
  | .column _ name type => { s with columns := Entries.set s.columns (Text.lower name) type }
  | .pattern _ source type => { s with patterns := setPattern s.patterns source type }

end Entry

/-- The overrides with an entry added by a single call. -/
def add (o : Overrides) : Entry → Overrides
  | .column dialect name type => o.addColumn dialect none name type
  | .pattern dialect source type => o.addPattern dialect source type

/-- The overrides with entries added one after another. -/
def addAll (o : Overrides) (entries : List Entry) : Overrides := entries.foldl add o

theorem addAll_append (o : Overrides) (entries entries' : List Entry) :
    o.addAll (entries ++ entries') = (o.addAll entries).addAll entries' := List.foldl_append ..

theorem sectionOf_add (o : Overrides) (e : Entry) (dialect : String) :
    (o.add e).sectionOf dialect =
      if e.dialect = dialect then e.addTo (o.sectionOf dialect) else o.sectionOf dialect := by
  have hupdate : o.add e = o.update e.dialect fun s => e.addTo s := by cases e <;> rfl
  rw [hupdate, sectionOf_update]
  by_cases h : e.dialect = dialect
  · rw [if_pos h, if_pos h, h]
  · rw [if_neg h, if_neg h]

/-- The section of a dialect has the entries for this dialect added. -/
theorem sectionOf_addAll (o : Overrides) (entries : List Entry) (dialect : String) :
    (o.addAll entries).sectionOf dialect =
      (entries.filter fun e => e.dialect = dialect).foldl Entry.addTo (o.sectionOf dialect) := by
  induction entries generalizing o with
  | nil => rfl
  | cons e entries ih =>
    have hstep := ih (o.add e)
    rw [sectionOf_add] at hstep
    rw [addAll, List.foldl_cons, ← addAll, hstep]
    by_cases h : e.dialect = dialect
    · rw [if_pos h, List.filter_cons_of_pos (by simpa using h), List.foldl_cons]
    · rw [if_neg h, List.filter_cons_of_neg (by simpa using h)]

theorem Entry.addTo_alike {s s' : OverrideSection} (h : s.Alike s') (e : Entry) : (e.addTo s).Alike (e.addTo s') := by
  cases e with
  | column dialect name type =>
    refine ⟨h.patterns, fun key => ?_⟩
    simp only [addTo, Entries.get?_set, h.columns]
  | pattern dialect source type =>
    refine ⟨?_, h.columns⟩
    simp only [addTo, h.patterns]

theorem Alike.addAll {o o' : Overrides} (h : o.Alike o') (entries : List Entry) :
    (o.addAll entries).Alike (o'.addAll entries) := by
  intro dialect
  rw [sectionOf_addAll, sectionOf_addAll]
  have hsection := h dialect
  generalize o.sectionOf dialect = s at hsection ⊢
  generalize o'.sectionOf dialect = s' at hsection ⊢
  induction entries.filter (fun e => e.dialect = dialect) generalizing s s' with
  | nil => exact hsection
  | cons e entries ih => exact ih _ _ (e.addTo_alike hsection)

/-- A change of one section that adds entries to it adds them to the overrides. -/
theorem alike_update {dialect : String} {change : OverrideSection → OverrideSection} {entries : List Entry}
    (hdialect : ∀ e ∈ entries, e.dialect = dialect)
    (hchange : ∀ s, (change s).Alike (entries.foldl Entry.addTo s)) (o : Overrides) :
    (o.update dialect change).Alike (o.addAll entries) := by
  intro other
  rw [sectionOf_update, sectionOf_addAll]
  by_cases hother : dialect = other
  · have hall : entries.filter (fun e => e.dialect = other) = entries := by
      rw [List.filter_eq_self]
      intro e he
      simp [hdialect e he, hother]
    rw [if_pos hother, hall, ← hother]
    exact hchange _
  · have hnone : entries.filter (fun e => e.dialect = other) = [] := by
      rw [List.filter_eq_nil_iff]
      intro e he
      simp [hdialect e he, hother]
    rw [if_neg hother, hnone]
    exact .refl _

/-! ## Parts -/

/-- A part of a file: an entry, or the failure of a part that is out of shape. -/
abbrev Part := Except Error Entry

/-- The entries before the first part that is out of shape. -/
def front : List Part → List Entry
  | .ok e :: parts => e :: front parts
  | _ => []

/-- The failure of the first part that is out of shape. -/
def fault? : List Part → Option Error
  | [] => none
  | .ok _ :: parts => fault? parts
  | .error e :: _ => some e

def entriesOf (parts : List Part) : List Entry := parts.filterMap Except.toOption

/-- The entries behind the first part that is out of shape. -/
def behind : List Part → List Entry
  | [] => []
  | .ok _ :: parts => behind parts
  | .error _ :: parts => entriesOf parts

/-- How merging ends. -/
def outcome (parts : List Part) : Except Error Unit :=
  match fault? parts with
  | none => .ok ()
  | some e => .error e

theorem entriesOf_eq (parts : List Part) : entriesOf parts = front parts ++ behind parts := by
  induction parts with
  | nil => rfl
  | cons part parts ih =>
    cases part with
    | ok e => exact congrArg (e :: ·) ih
    | error e => rfl

theorem behind_eq_nil {parts : List Part} (h : fault? parts = none) : behind parts = [] := by
  induction parts with
  | nil => rfl
  | cons part parts ih =>
    cases part with
    | ok e => exact ih h
    | error e => cases h

theorem fault?_append (parts parts' : List Part) : fault? (parts ++ parts') = (fault? parts).or (fault? parts') := by
  induction parts with
  | nil => rfl
  | cons part parts ih =>
    cases part with
    | ok e => exact ih
    | error e => rfl

theorem front_append (parts parts' : List Part) :
    front (parts ++ parts') = if (fault? parts).isSome then front parts else front parts ++ front parts' := by
  induction parts with
  | nil => rfl
  | cons part parts ih =>
    cases part with
    | error e => rfl
    | ok e =>
      show e :: front (parts ++ parts') =
        if (fault? parts).isSome then e :: front parts else e :: (front parts ++ front parts')
      rw [ih]
      split <;> rfl

section

variable {α : Type} (items : List α) (entry : α → Entry)

theorem front_map_ok : front (items.map fun a => .ok (entry a)) = items.map entry := by
  induction items with
  | nil => rfl
  | cons a items ih => exact congrArg (entry a :: ·) ih

theorem fault?_map_ok : fault? (items.map fun a => .ok (entry a)) = none := by
  induction items with
  | nil => rfl
  | cons a items ih => exact ih

end

/-! ## The parts of a file -/

/-- The parts of an object or a list of patterns. -/
def patternParts (dialect : String) (value : Cell) : List Part :=
  match value with
  | .map entries => entries.map fun entry => .ok (.pattern dialect entry.1 entry.2)
  | value =>
    match value.items with
    | .error e => [.error e]
    | .ok items => items.zipIdx.map fun item =>
        (patternEntry item.2 item.1).map fun entry => .pattern dialect entry.1 entry.2

/-- The parts of an object of columns. -/
def columnParts (dialect : String) (value : Cell) : List Part :=
  match value with
  | .map entries => entries.map fun entry => .ok (.column dialect (textOf entry.1) entry.2)
  | value => [.error (.attribute value.fullTypeName "items")]

/-- The parts of a member, if it is there. -/
def memberParts (member : Option Cell) (parts : Cell → List Part) : List Part := (member.map parts).getD []

/-- The parts of what a file says for a dialect: its patterns, then its columns. -/
def sectionParts (dialect : String) (value : Cell) : List Part :=
  match value with
  | .map entries =>
    memberParts (Entries.get? entries (.text "patterns")) (patternParts dialect) ++
      memberParts (Entries.get? entries (.text "columns")) (columnParts dialect)
  | value => [.error (.attribute value.fullTypeName "get")]

/-- The parts of a document, dialect by dialect. -/
def documentParts (document : Cell) : List Part :=
  match document with
  | .map entries => entries.flatMap fun entry => sectionParts (textOf entry.1) entry.2
  | value => [.error (.attribute value.fullTypeName "items")]

/-- The parts of the content of a file. A file that is missing or holds no document has none. -/
def fileParts (content : Option Bytes) : List Part :=
  match content.bind Document.ofBytes? with
  | none => []
  | some document => documentParts document

/-! ## Merging -/

/-- Merging adds the entries of the parts up to the first that is out of shape, and fails as this one does. -/
def Follows (m : Merging Unit) (parts : List Part) : Prop :=
  ∀ o, (m.runOn o).1 = outcome parts ∧ (m.runOn o).2.Alike (o.addAll (front parts))

theorem follows_pure : Follows (pure ()) [] := fun o => ⟨rfl, .refl o⟩

theorem follows_throw (e : Error) (parts : List Part) : Follows (throw e) (.error e :: parts) :=
  fun o => ⟨rfl, .refl o⟩

/-- A section is opened before anything is added to it. -/
theorem follows_open (dialect : String) : Follows (modifySection dialect id) [] :=
  fun o => ⟨rfl, alike_update (by simp [front]) (fun s => .refl s) o⟩

theorem follows_modifySection {α : Type} {dialect : String} {change : OverrideSection → OverrideSection}
    {items : List α} {entry : α → Entry} (hdialect : ∀ a, (entry a).dialect = dialect)
    (hchange : ∀ s, (change s).Alike ((items.map entry).foldl Entry.addTo s)) :
    Follows (modifySection dialect change) (items.map fun a => .ok (entry a)) := by
  intro o
  rw [outcome, fault?_map_ok, front_map_ok]
  refine ⟨rfl, alike_update ?_ hchange o⟩
  intro e he
  obtain ⟨a, -, rfl⟩ := List.mem_map.1 he
  exact hdialect a

theorem Follows.seq {m m' : Merging Unit} {parts parts' : List Part} (h : Follows m parts) (h' : Follows m' parts') :
    Follows (do m; m') (parts ++ parts') := by
  intro o
  obtain ⟨houtcome, halike⟩ := h o
  rw [Merging.runOn_seq]
  generalize m.runOn o = run at houtcome halike
  obtain ⟨outcome₁, o₁⟩ := run
  dsimp only at houtcome halike
  subst houtcome
  rw [outcome, outcome, fault?_append, front_append]
  cases hfault : fault? parts with
  | some e => exact ⟨rfl, halike⟩
  | none =>
    obtain ⟨houtcome', halike'⟩ := h' o₁
    refine ⟨houtcome', halike'.trans ?_⟩
    rw [Option.isSome_none, if_neg Bool.false_ne_true, addAll_append]
    exact halike.addAll _

theorem follows_mergePatternItems (dialect : String) (position : Nat) (items : List Cell) :
    Follows (mergePatternItems dialect position items) ((items.zipIdx position).map fun item =>
      (patternEntry item.2 item.1).map fun entry => .pattern dialect entry.1 entry.2) := by
  induction items generalizing position with
  | nil => exact follows_pure
  | cons item items ih =>
    rw [List.zipIdx_cons, List.map_cons, mergePatternItems]
    cases patternEntry position item with
    | error e => exact follows_throw e _
    | ok entry =>
      have hset : Follows (modifySection dialect fun s =>
          { s with patterns := setPattern s.patterns entry.1 entry.2 })
          ([entry].map fun entry => .ok (.pattern dialect entry.1 entry.2)) :=
        follows_modifySection (fun _ => rfl) fun s => .refl _
      exact hset.seq (ih (position + 1))

theorem foldl_addTo_patterns (dialect : String) (s : OverrideSection) (entries : List (Cell × Cell)) :
    (entries.map fun entry => Entry.pattern dialect entry.1 entry.2).foldl Entry.addTo s =
      { s with patterns := entries.foldl (fun patterns entry => setPattern patterns entry.1 entry.2) s.patterns } := by
  induction entries generalizing s with
  | nil => rfl
  | cons entry entries ih => exact ih _

theorem foldl_addTo_columns (dialect : String) (s : OverrideSection) (entries : List (Cell × Cell)) :
    (entries.map fun entry => Entry.column dialect (textOf entry.1) entry.2).foldl Entry.addTo s =
      { s with columns :=
          Entries.setAll s.columns (entries.map fun entry => (Text.lower (textOf entry.1), entry.2)) } := by
  induction entries generalizing s with
  | nil => rfl
  | cons entry entries ih => exact ih _

theorem follows_mergePatterns (dialect : String) (value : Cell) :
    Follows (mergePatterns dialect value) (patternParts dialect value) := by
  have hitems : Follows (do mergePatternItems dialect 0 (← value.items))
      (match value.items with
      | .error e => [.error e]
      | .ok items => items.zipIdx.map fun item =>
          (patternEntry item.2 item.1).map fun entry => .pattern dialect entry.1 entry.2) := by
    cases value.items with
    | error e => exact follows_throw e []
    | ok items => exact follows_mergePatternItems dialect 0 items
  cases value with
  | map entries =>
    refine follows_modifySection (fun _ => rfl) fun s => ?_
    rw [foldl_addTo_patterns]
    exact .refl _
  | _ => exact hitems

theorem follows_mergeColumns (dialect : String) (value : Cell) :
    Follows (mergeColumns dialect value) (columnParts dialect value) := by
  cases value with
  | map entries =>
    refine follows_modifySection (fun _ => rfl) fun s => ?_
    rw [foldl_addTo_columns]
    -- The names are put in lower case before any of them is added, so a name may be replaced on the way.
    refine ⟨rfl, fun key => ?_⟩
    simp only [Entries.get?_setAll, Entries.lastValue?_ofPairs, List.map_map, Function.comp_def]
  | _ => exact follows_throw _ []

theorem follows_mergeMember {member : Option Cell} {merge : Cell → Merging Unit} {parts : Cell → List Part}
    (h : ∀ value, Follows (merge value) (parts value)) :
    Follows (mergeMember member merge) (memberParts member parts) := by
  cases member with
  | none => exact follows_pure
  | some value => exact h value

/-- **The section of a dialect is merged part by part.** -/
theorem follows_mergeSection (dialect : String) (value : Cell) :
    Follows (mergeSection dialect value) (sectionParts dialect value) := by
  cases value with
  | map entries =>
    rw [mergeSection_map]
    exact (follows_open dialect).seq ((follows_mergeMember (follows_mergePatterns dialect)).seq
      (follows_mergeMember (follows_mergeColumns dialect)))
  | _ => exact (follows_open dialect).seq (follows_throw _ [])

/-- **A document is merged part by part.** -/
theorem follows_mergeDocument (document : Cell) : Follows (mergeDocument document) (documentParts document) := by
  cases document with
  | map entries =>
    have hmerge : mergeDocument (.map entries) =
        (entries.map fun entry => (textOf entry.1, entry.2)).forM fun entry => mergeSection entry.1 entry.2 := rfl
    rw [hmerge, documentParts]
    clear hmerge
    induction entries with
    | nil => exact follows_pure
    | cons entry entries ih => exact (follows_mergeSection (textOf entry.1) entry.2).seq ih
  | _ => exact follows_throw _ []

theorem follows_merge (content : Option Bytes) : Follows (merge content) (fileParts content) := by
  rw [merge, fileParts]
  cases content.bind Document.ofBytes? with
  | none => exact follows_pure
  | some document => exact follows_mergeDocument document

/-! ## All or nothing -/

/-- All entries of a file have been added, or every look-up is as it was before. -/
def AllOrNothing (before : Overrides) (content : Option Bytes) (after : Overrides) : Prop :=
  after.Alike (before.addAll (entriesOf (fileParts content))) ∨ SameLookups after before

/-- **What loading a file leaves**, whether it succeeds or fails: the entries before the first part out of shape have
been added, as if by single calls, and no others. So it is all or nothing exactly if every part is in shape, or all
entries behind the first that is not stand there already, or those before it change no look-up. -/
theorem load_allOrNothing_iff (env : Environment) (before : Overrides) (content : Option Bytes) :
    ∃ after : Overrides,
      (Session.load content).runIn { env with overrides := some before } =
        (outcome (fileParts content), { env with overrides := some after }) ∧
      after.Alike (before.addAll (front (fileParts content))) ∧
      (AllOrNothing before content after ↔
        fault? (fileParts content) = none ∨
          (after.addAll (behind (fileParts content))).Alike after ∨
          SameLookups (before.addAll (front (fileParts content))) before) := by
  obtain ⟨houtcome, halike⟩ := follows_merge content before
  have hmerged : Session.merged before content = (merge content).runOn before := rfl
  refine ⟨((merge content).runOn before).2, ?_, halike, ?_⟩
  · rw [Session.runIn_load rfl, hmerged, houtcome]
  generalize ((merge content).runOn before).2 = after at halike
  have hall : (before.addAll (entriesOf (fileParts content))).Alike (after.addAll (behind (fileParts content))) := by
    rw [entriesOf_eq, addAll_append]
    exact (halike.addAll _).symm
  constructor
  · rintro (hmerged | hsame)
    · exact .inr (.inl (hmerged.trans hall).symm)
    · exact .inr (.inr fun dialect table column =>
        (halike.sameLookups dialect table column).symm.trans (hsame dialect table column))
  · rintro (hfault | hstands | hsame)
    · rw [behind_eq_nil hfault] at hall
      exact .inl hall.symm
    · exact .inl (hall.trans hstands).symm
    · exact .inr fun dialect table column =>
        (halike.sameLookups dialect table column).trans (hsame dialect table column)

/-- A file of which the part for one of three dialects is out of shape. -/
def unevenFile : Option Bytes :=
  some ("\x7b\"sqlite\": \x7b\"columns\": \x7b\"a\": \"DATE\"\x7d\x7d, \"jdbc\": 5, ".toUTF8.toList ++
    "\"odbc\": \x7b\"columns\": \x7b\"b\": \"TIME\"\x7d\x7d\x7d".toUTF8.toList)

/-- The column of the first dialect has been added, that of the last one has not. -/
theorem not_allOrNothing_unevenFile : ¬AllOrNothing .empty unevenFile (Session.merged .empty unevenFile).2 := by
  rintro (hmerged | hsame)
  · have hcolumn := congrArg Option.isSome ((hmerged "odbc").columns "b")
    revert hcolumn
    decide +kernel
  · have hlookup := congrArg (fun found => (found.toOption.bind id).isSome) (hsame "sqlite" none (some "a"))
    revert hlookup
    decide +kernel

end Overrides

end TypedRows
