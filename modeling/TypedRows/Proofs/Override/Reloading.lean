import TypedRows.Options
import TypedRows.Proofs.Dialect.Resolution
import TypedRows.Proofs.Override.Loading
import TypedRows.Proofs.Override.Reading
/-!
# Loading a file again

Whatever stands in the overrides, merging a file makes the same updates of them in the same order, and ends in the same
way (`Replays`): a section is opened, a pattern or a column is set. Names of a file can be alike in lower case and
patterns can be alike as keys, so an update may undo an earlier one, and the overrides between two updates are others
when the file is merged again. What stays is where everything stands: once the place of an update is there, it takes
the place of another update or they can be made in any order (`Update.run_run`). So the last update absorbs an earlier
one of its kind, whatever was made in between (`run_runAll_run`), and making all of them again changes nothing
(`runAll_runAll`).

Main statement: `Session.load_again`.
-/

namespace TypedRows

namespace Overrides

/-! ## Updates of a section -/

theorem get?_sections_update (o : Overrides) (dialect other : String) (change : OverrideSection → OverrideSection) :
    Entries.get? (o.update dialect change).sections other =
      if dialect = other then some (change (o.sectionOf dialect)) else Entries.get? o.sections other := by
  rw [update, Entries.get?_set]
  by_cases h : dialect = other
  · simp [h]
  · simp [h]

theorem update_update (o : Overrides) (dialect : String) (change change' : OverrideSection → OverrideSection) :
    (o.update dialect change).update dialect change' = o.update dialect fun s => change' (change s) := by
  have hsection : (o.update dialect change).sectionOf dialect = change (o.sectionOf dialect) := by
    rw [sectionOf_update, if_pos rfl]
  rw [update, hsection, update, Entries.set_set_self (beq_self_eq_true dialect), update]

/-- The section of a dialect that is there can be changed before that of another. -/
theorem update_comm {o : Overrides} {dialect other : String} (h : (Entries.get? o.sections other).isSome = true)
    (hne : dialect ≠ other) (change change' : OverrideSection → OverrideSection) :
    (o.update dialect change).update other change' = (o.update other change').update dialect change := by
  have hother : (o.update dialect change).sectionOf other = o.sectionOf other := by
    rw [sectionOf_update, if_neg hne]
  have hdialect : (o.update other change').sectionOf dialect = o.sectionOf dialect := by
    rw [sectionOf_update, if_neg (Ne.symm hne)]
  rw [update, hother, update, Entries.set_comm h hne, update, hdialect, update]

/-- A section that is there is changed to what it is. -/
theorem update_congr {o : Overrides} {dialect : String} {change change' : OverrideSection → OverrideSection}
    (h : change (o.sectionOf dialect) = change' (o.sectionOf dialect)) :
    o.update dialect change = o.update dialect change' := by
  rw [update, h, update]

/-! ## Updates -/

/-- What merging does at a time: it opens the section of a dialect, or adds an entry. -/
inductive Update where
  | opens (dialect : String)
  | adds (e : Entry)

namespace Update

def dialect : Update → String
  | .opens dialect => dialect
  | .adds e => e.dialect

/-- The section of the dialect after an update. -/
def change (s : OverrideSection) : Update → OverrideSection
  | .opens _ => s
  | .adds e => e.addTo s

def run (o : Overrides) (u : Update) : Overrides := o.update u.dialect u.change

/-- The type of a pattern among patterns. -/
def typeOf? (patterns : List (Cell × Cell)) (source : Cell) : Option Cell :=
  @Entries.get? Cell Cell ⟨samePattern⟩ patterns source

/-- The name or the pattern of an update stands in a section. -/
def KnownTo (s : OverrideSection) : Update → Prop
  | .opens _ => True
  | .adds (.column _ name _) => (Entries.get? s.columns (Text.lower name)).isSome = true
  | .adds (.pattern _ source _) => (typeOf? s.patterns source).isSome = true

/-- What an update sets is found again: a pattern has to be the same pattern as itself. -/
def IsFindable : Update → Prop
  | .adds (.pattern _ source _) => samePattern source source = true
  | _ => True

variable {s : OverrideSection} {u u' : Update}

theorem knownTo_change_self (h : u.IsFindable) (s : OverrideSection) : u.KnownTo (u.change s) := by
  match u with
  | .opens _ => trivial
  | .adds (.column _ name type) => exact Entries.isSome_get?_set (beq_self_eq_true _) s.columns type
  | .adds (.pattern _ source type) => exact @Entries.isSome_get?_set Cell Cell ⟨samePattern⟩ source h s.patterns type

theorem knownTo_change (h : u.KnownTo s) (u' : Update) : u.KnownTo (u'.change s) := by
  match u, u' with
  | .opens _, _ => trivial
  -- A pattern leaves the columns as they are, and a column the patterns.
  | .adds (.column ..), .opens _ | .adds (.column ..), .adds (.pattern ..) => exact h
  | .adds (.pattern ..), .opens _ | .adds (.pattern ..), .adds (.column ..) => exact h
  | .adds (.column ..), .adds (.column _ name type) => exact Entries.isSome_get?_set_of_isSome h (Text.lower name) type
  | .adds (.pattern ..), .adds (.pattern _ source type) =>
    exact @Entries.isSome_get?_set_of_isSome Cell Cell ⟨samePattern⟩ _ _ h source type

theorem change_change_self (h : u.IsFindable) (s : OverrideSection) : u.change (u.change s) = u.change s := by
  match u with
  | .opens _ => rfl
  | .adds (.column _ name type) =>
    exact congrArg (OverrideSection.mk s.patterns) (Entries.set_set_self (beq_self_eq_true _) s.columns type type)
  | .adds (.pattern _ source type) =>
    exact congrArg (OverrideSection.mk · s.columns)
      (@Entries.set_set_self Cell Cell ⟨samePattern⟩ source h s.patterns type type)

/-- **In a section that knows its place, an update after another takes the place of it**, or they can be made in any
order. -/
theorem change_change (h : u'.KnownTo s) (u : Update) :
    u'.change (u.change s) = u'.change s ∨ u'.change (u.change s) = u.change (u'.change s) := by
  match u', u with
  | .opens _, _ | .adds _, .opens _ => exact .inr rfl
  | .adds (.column ..), .adds (.pattern ..) | .adds (.pattern ..), .adds (.column ..) => exact .inr rfl
  | .adds (.column _ name' type'), .adds (.column _ name type) =>
    exact (Entries.set_set_of_isSome h (Text.lower name) type type').imp (congrArg (OverrideSection.mk s.patterns))
      (congrArg (OverrideSection.mk s.patterns))
  | .adds (.pattern _ source' type'), .adds (.pattern _ source type) =>
    exact (@Entries.set_set_of_isSome Cell Cell ⟨samePattern⟩ _ _ h source type type').imp
      (congrArg (OverrideSection.mk · s.columns)) (congrArg (OverrideSection.mk · s.columns))

/-- The place of an update is there: the section of its dialect, and its name or its pattern in it. -/
def Stands (u : Update) (o : Overrides) : Prop :=
  (Entries.get? o.sections u.dialect).isSome = true ∧ u.KnownTo (o.sectionOf u.dialect)

variable {o : Overrides}

theorem stands_run_self (h : u.IsFindable) (o : Overrides) : u.Stands (u.run o) := by
  rw [Stands, run, get?_sections_update, sectionOf_update, if_pos rfl, if_pos rfl]
  exact ⟨rfl, u.knownTo_change_self h _⟩

theorem stands_run (h : u.Stands o) (u' : Update) : u.Stands (u'.run o) := by
  rw [Stands, run, get?_sections_update, sectionOf_update]
  by_cases hdialect : u'.dialect = u.dialect
  · rw [if_pos hdialect, if_pos hdialect, hdialect]
    exact ⟨rfl, u.knownTo_change h.2 u'⟩
  · rw [if_neg hdialect, if_neg hdialect]
    exact h

theorem run_run_self (h : u.IsFindable) (o : Overrides) : u.run (u.run o) = u.run o := by
  rw [run, run, update_update]
  exact update_congr (u.change_change_self h _)

/-- **An update whose place is there takes the place of another**, or they can be made in any order. -/
theorem run_run (h : u'.Stands o) (u : Update) :
    u'.run (u.run o) = u'.run o ∨ u'.run (u.run o) = u.run (u'.run o) := by
  by_cases hdialect : u.dialect = u'.dialect
  · simp only [run, hdialect, update_update]
    exact (change_change h.2 u).imp update_congr update_congr
  · exact .inr (update_comm h.1 hdialect _ _)

end Update

/-! ## Updates one after another -/

/-- The overrides after updates one after another. -/
def runAll (o : Overrides) (us : List Update) : Overrides := us.foldl (fun o u => u.run o) o

theorem runAll_append (o : Overrides) (us us' : List Update) : o.runAll (us ++ us') = (o.runAll us).runAll us' :=
  List.foldl_append ..

theorem stands_runAll {u : Update} {o : Overrides} (h : u.Stands o) (us : List Update) : u.Stands (o.runAll us) := by
  induction us generalizing o with
  | nil => exact h
  | cons u' us ih => exact ih (Update.stands_run h u')

/-- Whatever has been set stands. -/
theorem stands_runAll_of_mem {u : Update} {us : List Update} (hu : u.IsFindable) (hmem : u ∈ us) (o : Overrides) :
    u.Stands (o.runAll us) := by
  obtain ⟨before, after, rfl⟩ := List.append_of_mem hmem
  rw [runAll_append]
  exact stands_runAll (Update.stands_run_self hu _) after

/-- **An update absorbs an earlier one of its kind**, if the places of all between them are there. -/
theorem run_runAll_run {u : Update} (hu : u.IsFindable) {us : List Update} {o : Overrides}
    (hstands : ∀ u' ∈ us, u'.Stands o) : u.run ((u.run o).runAll us) = u.run (o.runAll us) := by
  induction us generalizing o with
  | nil => exact Update.run_run_self hu o
  | cons u' us ih =>
    obtain ⟨hfirst, hrest⟩ := List.forall_mem_cons.1 hstands
    show u.run ((u'.run (u.run o)).runAll us) = u.run ((u'.run o).runAll us)
    rcases Update.run_run hfirst u with heq | hcomm
    · rw [heq]
    · rw [hcomm]
      exact ih fun u'' hmem => Update.stands_run (hrest u'' hmem) u'

/-- **Updates that are all made again change nothing.** -/
theorem runAll_runAll {us : List Update} (h : ∀ u ∈ us, u.IsFindable) (o : Overrides) :
    (o.runAll us).runAll us = o.runAll us := by
  -- From the right, since the last update is the one that is left to stand.
  induction us using List.reverseRecOn with
  | nil => rfl
  | append_singleton us u ih =>
    rw [List.forall_mem_append] at h
    obtain ⟨hus, hu⟩ := h
    have hlast : ∀ o : Overrides, o.runAll (us ++ [u]) = u.run (o.runAll us) := fun o => runAll_append o us [u]
    rw [hlast, hlast, run_runAll_run (hu u (by simp)) fun u' hmem => stands_runAll_of_mem (hus u' hmem) hmem o, ih hus]

/-! ## Merging -/

/-- Merging ends in the same way and makes the same updates, whatever stands in the overrides. -/
def Replays (m : Merging Unit) : Prop :=
  ∃ outcome us, (∀ u ∈ us, u.IsFindable) ∧ ∀ o, m.runOn o = (outcome, o.runAll us)

/-- **Merging that replays, made again, ends in the same way and changes nothing.** -/
theorem Replays.runOn_again {m : Merging Unit} (h : Replays m) (o : Overrides) : m.runOn (m.runOn o).2 = m.runOn o := by
  obtain ⟨outcome, us, hfindable, hrun⟩ := h
  rw [hrun, hrun, runAll_runAll hfindable]

theorem replays_pure : Replays (pure ()) := ⟨.ok (), [], by simp, fun _ => rfl⟩

theorem replays_throw (e : Error) : Replays (throw e) := ⟨.error e, [], by simp, fun _ => rfl⟩

theorem Replays.seq {m m' : Merging Unit} (h : Replays m) (h' : Replays m') : Replays (do m; m') := by
  obtain ⟨outcome, us, hfindable, hrun⟩ := h
  cases outcome with
  | error e => exact ⟨.error e, us, hfindable, fun o => by rw [Merging.runOn_seq, hrun]⟩
  | ok _ =>
    obtain ⟨outcome', us', hfindable', hrun'⟩ := h'
    refine ⟨outcome', us ++ us', List.forall_mem_append.2 ⟨hfindable, hfindable'⟩, fun o => ?_⟩
    rw [Merging.runOn_seq, hrun, runAll_append]
    exact hrun' _

/-- Entries for one dialect are added in one change of its section. -/
theorem runAll_adds {dialect : String} {entries : List Entry} (hdialect : ∀ e ∈ entries, e.dialect = dialect)
    (o : Overrides) (change : OverrideSection → OverrideSection) :
    (o.update dialect change).runAll (entries.map .adds) =
      o.update dialect fun s => entries.foldl Entry.addTo (change s) := by
  induction entries generalizing change with
  | nil => rfl
  | cons e entries ih =>
    obtain ⟨rfl, hrest⟩ := List.forall_mem_cons.1 hdialect
    have hstep : Update.run (o.update e.dialect change) (.adds e) = o.update e.dialect fun s => e.addTo (change s) :=
      update_update o e.dialect change _
    rw [List.map_cons, runAll, List.foldl_cons, hstep]
    exact ih hrest _

/-- A change of one section that adds entries to it. -/
theorem replays_modifySection {dialect : String} {change : OverrideSection → OverrideSection} (entries : List Entry)
    (hdialect : ∀ e ∈ entries, e.dialect = dialect) (hfindable : ∀ e ∈ entries, (Update.adds e).IsFindable)
    (hchange : ∀ s, change s = entries.foldl Entry.addTo s) : Replays (modifySection dialect change) := by
  refine ⟨.ok (), .opens dialect :: entries.map .adds, ?_, fun o => ?_⟩
  · rw [List.forall_mem_cons, List.forall_mem_map]
    exact ⟨trivial, hfindable⟩
  · have hrun : o.runAll (.opens dialect :: entries.map .adds) =
        o.update dialect fun s => entries.foldl Entry.addTo s := runAll_adds hdialect o id
    rw [hrun, ← funext hchange]
    rfl

/-- The pattern of an item in a document is the same pattern as itself. -/
theorem samePattern_of_patternEntry {item source type : Cell} {position : Nat} (h : Document.IsValue item)
    (hentry : patternEntry position item = .ok (source, type)) : samePattern source source = true := by
  rw [patternEntry] at hentry
  split at hentry
  · cases hentry
  · rename_i pattern type' hitems
    cases hkey : pattern.checkKey with
    | error e => simp [hkey, Except.map] at hentry
    | ok _ =>
      rw [hkey] at hentry
      cases hentry
      exact (h.of_mem_items hitems (by simp)).samePattern_self hkey
  · cases hentry

theorem replays_mergePatternItems (dialect : String) (position : Nat) {items : List Cell}
    (h : ∀ item ∈ items, Document.IsValue item) : Replays (mergePatternItems dialect position items) := by
  induction items generalizing position with
  | nil => exact replays_pure
  | cons item items ih =>
    obtain ⟨hitem, hitems⟩ := List.forall_mem_cons.1 h
    rw [mergePatternItems]
    cases hentry : patternEntry position item with
    | error e => exact replays_throw e
    | ok entry =>
      have hset : Replays (modifySection dialect fun s =>
          { s with patterns := setPattern s.patterns entry.1 entry.2 }) :=
        replays_modifySection [.pattern dialect entry.1 entry.2] (by simp [Entry.dialect])
          (List.forall_mem_singleton.2 (samePattern_of_patternEntry hitem hentry)) fun _ => rfl
      exact hset.seq (ih (position + 1) hitems)

theorem replays_mergePatterns (dialect : String) {value : Cell} (h : Document.IsValue value) :
    Replays (mergePatterns dialect value) := by
  have hitems : Replays (do mergePatternItems dialect 0 (← value.items)) := by
    cases hvalue : value.items with
    | error e => exact replays_throw e
    | ok items => exact replays_mergePatternItems dialect 0 fun item => h.of_mem_items hvalue
  cases h with
  | map hnames hvalues =>
    refine replays_modifySection _ ?_ ?_ fun s => (foldl_addTo_patterns dialect s _).symm
    · exact List.forall_mem_map.2 fun _ _ => rfl
    · refine List.forall_mem_map.2 fun entry hentry => ?_
      obtain ⟨name, hname⟩ := hnames entry hentry
      exact hname ▸ (Document.IsValue.text name).samePattern_self rfl
  | _ => exact hitems

theorem replays_mergeColumns (dialect : String) (value : Cell) : Replays (mergeColumns dialect value) := by
  cases value with
  | map entries =>
    refine replays_modifySection (entries.map fun entry => .column dialect (textOf entry.1) entry.2) ?_ ?_ fun s => ?_
    · exact List.forall_mem_map.2 fun _ _ => rfl
    · exact List.forall_mem_map.2 fun _ _ => trivial
    · -- The names are put in lower case before any of them is added, which comes to the same.
      rw [foldl_addTo_columns, Entries.setAll_ofPairs, List.map_map]
      rfl
  | _ => exact replays_throw _

theorem replays_mergeMember {member : Option Cell} {merge : Cell → Merging Unit}
    (h : ∀ value, member = some value → Replays (merge value)) : Replays (mergeMember member merge) := by
  cases member with
  | none => exact replays_pure
  | some value => exact h value rfl

theorem replays_mergeSection (dialect : String) {value : Cell} (h : Document.IsValue value) :
    Replays (mergeSection dialect value) := by
  have hopen : Replays (modifySection dialect id) :=
    replays_modifySection [] (by simp) (by simp) fun _ => rfl
  cases value with
  | map entries =>
    rw [mergeSection_map]
    refine hopen.seq ((replays_mergeMember fun patterns hpatterns => ?_).seq (replays_mergeMember fun columns _ => ?_))
    · exact replays_mergePatterns dialect (h.get? hpatterns)
    · exact replays_mergeColumns dialect columns
  | _ => exact hopen.seq (replays_throw _)

theorem replays_mergeDocument {document : Cell} (h : Document.IsValue document) : Replays (mergeDocument document) := by
  cases h with
  | @map entries hnames hvalues =>
    have hmerge : mergeDocument (.map entries) =
        (entries.map fun entry => (textOf entry.1, entry.2)).forM fun entry => mergeSection entry.1 entry.2 := rfl
    rw [hmerge]
    clear hmerge hnames
    induction entries with
    | nil => exact replays_pure
    | cons entry entries ih =>
      obtain ⟨hentry, hentries⟩ := List.forall_mem_cons.1 hvalues
      exact (replays_mergeSection (textOf entry.1) hentry).seq (ih hentries)
  | _ => exact replays_throw _

/-- **Merging a file replays**, be it in shape or not. -/
theorem replays_merge (content : Option Bytes) : Replays (merge content) := by
  rw [merge]
  cases hdocument : content.bind Document.ofBytes? with
  | none => exact replays_pure
  | some document =>
    obtain ⟨data, -, hread⟩ := Option.bind_eq_some_iff.1 hdocument
    exact replays_mergeDocument (Document.isValue_ofBytes? hread)

end Overrides

namespace Session

/-! ## Loading -/

/-- **A file that is merged again changes nothing**, and its merging ends as it did. -/
theorem merged_again (overrides : Overrides) (content : Option Bytes) :
    merged (merged overrides content).2 content = merged overrides content :=
  (Overrides.replays_merge content).runOn_again overrides

/-- A file that has been loaded is loaded again, and consulting the overrides changes nothing any more. -/
theorem runIn_load_again (env : Environment) (content : Option Bytes) :
    (load content).runIn ((load content).runIn env).2 = (load content).runIn env ∧
      (consult.runIn ((load content).runIn env).2).2 = ((load content).runIn env).2 := by
  rw [runIn_load_eq env]
  rcases runIn_consult_cases env with ⟨overrides, env', hconsult⟩ | ⟨e, hconsult⟩
  · rw [hconsult]
    refine ⟨?_, congrArg Prod.snd (runIn_consult_of_some rfl)⟩
    rw [runIn_load rfl, merged_again]
  · rw [hconsult]
    refine ⟨?_, congrArg Prod.snd hconsult⟩
    rw [runIn_load_eq, hconsult]

/-! ## Options -/

/-- Options of a known dialect load their file; others fail before they come to it. -/
theorem runIn_options (given : Options) (content : Option Bytes) (env : Environment) :
    (options given (some content)).runIn env =
      match Dialect.ofName? given.dialect with
      | some _ => (((load content).runIn env).1.map fun _ => given, ((load content).runIn env).2)
      | none => (.error (.value .dialect), env) := by
  rw [options, runIn_bind, runIn_dialect_eq]
  cases Dialect.ofName? given.dialect with
  | none => rfl
  | some d =>
    dsimp only
    rw [runIn_bind]
    cases (load content).runIn env with
    | mk outcome env' => cases outcome <;> rfl

/-- Options that are made again are made as they were, and change nothing. -/
theorem runIn_options_again (given : Options) (file : Option (Option Bytes)) (env : Environment) :
    (options given file).runIn ((options given file).runIn env).2 = (options given file).runIn env := by
  cases file with
  | none =>
    have hnone : ∀ env, ((options given none).runIn env).2 = env := by
      intro env
      rw [options, runIn_bind, runIn_dialect_eq]
      cases Dialect.ofName? given.dialect <;> rfl
    rw [hnone]
  | some content =>
    rw [runIn_options, runIn_options]
    cases Dialect.ofName? given.dialect with
    | none => rfl
    | some d =>
      dsimp only
      rw [(runIn_load_again env content).1]

/-- What is done with a file in hand: options are made with it, or the type of a column is resolved. -/
inductive Use where
  | options (given : Options)
  | resolve (dialect : String) (code : Cell) (column table typeName : Option String)

/-- The environment after a use of a file. A use that fails does not end the sequence. -/
def Use.after (content : Option Bytes) (env : Environment) : Use → Environment
  | .options given => ((Session.options given (some content)).runIn env).2
  | .resolve dialect code column table typeName => ((Session.resolve dialect code column table typeName).runIn env).2

/-- A file that has been loaded changes nothing more, whatever it is used for. -/
theorem Use.after_load (env : Environment) (content : Option Bytes) (u : Use) :
    u.after content ((load content).runIn env).2 = ((load content).runIn env).2 := by
  obtain ⟨hload, hconsult⟩ := runIn_load_again env content
  cases u with
  | options given =>
    rw [after, runIn_options]
    cases Dialect.ofName? given.dialect with
    | none => rfl
    | some d => exact congrArg Prod.snd hload
  | resolve dialect code column table typeName =>
    rw [after, Session.resolve, runIn_bind, runIn_dialect_eq]
    cases Dialect.ofName? dialect with
    | none => rfl
    | some d =>
      dsimp only
      rw [runIn_consulting]
      generalize ((load content).runIn env).2 = loaded at hconsult
      revert hconsult
      cases consult.runIn loaded with
      | mk outcome env' => cases outcome <;> exact id

theorem foldl_after_load (env : Environment) (content : Option Bytes) (uses : List Use) :
    uses.foldl (Use.after content) ((load content).runIn env).2 = ((load content).runIn env).2 := by
  induction uses with
  | nil => rfl
  | cons u uses ih => rw [List.foldl_cons, u.after_load, ih]

/-- **Loading a file twice is loading it once**: the second time ends in the same way and leaves the same overrides, so
that options which are made with one file again and again never change how a column is resolved. -/
theorem load_again (env : Environment) (content : Option Bytes) :
    (∀ overrides, merged (merged overrides content).2 content = merged overrides content) ∧
    (load content).runIn ((load content).runIn env).2 = (load content).runIn env ∧
    (∀ given file, (options given file).runIn ((options given file).runIn env).2 = (options given file).runIn env) ∧
    ∀ (d : Dialect) (given : Options) (uses : List Use) (dialect : String) (code : Cell)
      (column table typeName : Option String),
      let first := ((options { given with dialect := d.name } (some content)).runIn env).2
      (resolve dialect code column table typeName).runIn (uses.foldl (Use.after content) first) =
        (resolve dialect code column table typeName).runIn first := by
  refine ⟨fun overrides => merged_again overrides content, (runIn_load_again env content).1,
    fun given file => runIn_options_again given file env, ?_⟩
  intro d given uses dialect code column table typeName first
  have hfirst : first = ((load content).runIn env).2 := by
    show ((options { given with dialect := d.name } (some content)).runIn env).2 = _
    rw [runIn_options, Dialect.ofName?_name]
  rw [hfirst, foldl_after_load]

end Session

end TypedRows
