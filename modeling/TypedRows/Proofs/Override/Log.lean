import TypedRows.Override
import TypedRows.Proofs.Entries
import TypedRows.Proofs.Text.LetterCase
/-!
# Overrides as the log of their writes

Types are written one by one, for a dialect and either under the name of a column or under a pattern. The overrides
are in step with the log of the writes (`Reflects`) if under each name stands the type last written, and the patterns
stand in the order of their first writes; `Reflects.update` adds writes. What is found for a column is then told by
the log alone (`answer`).

Main statement: `Reflects.lookup`.
-/

namespace TypedRows

open Text (IsAscii)

namespace Overrides

/-! ## The log -/

/-- What a type is written for. -/
inductive Place where
  /-- The columns of a name, which may begin with the name of the table and a point. -/
  | column (name : String)
  /-- The columns in whose names a pattern occurs. -/
  | pattern (source : String)
deriving DecidableEq

/-- One type that is written. -/
structure Write where
  dialect : String
  place : Place
  type : Cell

/-- The name is in ASCII, or the pattern is one that an engine can search by. -/
def Write.IsProper (engine : SearchEngine) (w : Write) : Prop :=
  match w.place with
  | .column name => IsAscii name.toList
  | .pattern source => ∃ occurs, engine source = .ok occurs

instance (engine : SearchEngine) (w : Write) : Decidable (w.IsProper engine) :=
  match w with
  | ⟨_, .column name, _⟩ => inferInstanceAs (Decidable (IsAscii name.toList))
  | ⟨_, .pattern source, _⟩ =>
    match h : engine source with
    | .ok occurs => isTrue ⟨occurs, h⟩
    | .error e => isFalse fun ⟨occurs, hoccurs⟩ => by rw [h] at hoccurs; cases hoccurs

/-- The writes for a dialect. -/
def writesTo (dialect : String) (log : List Write) : List Write := log.filter fun w => w.dialect == dialect

/-- The name in lower case and the type that is written under it. -/
def Write.column? (w : Write) : Option (String × Cell) :=
  match w.place with
  | .column name => some (name.toLower, w.type)
  | .pattern _ => none

/-- The pattern and the type that is written under it. -/
def Write.pattern? (w : Write) : Option (String × Cell) :=
  match w.place with
  | .column _ => none
  | .pattern source => some (source, w.type)

/-- The type last written under a name, in whatever case. -/
def lastUnder? (log : List Write) (name : String) : Option Cell :=
  Entries.lastValue? (log.filterMap Write.column?) name.toLower

/-- The engine finds the pattern in a name. -/
def occurs (engine : SearchEngine) (source name : String) : Bool :=
  match engine source with
  | .ok occurs => occurs name
  | .error _ => false

/-- The type last written under the first pattern, in the order of the first writes, that occurs in a column. -/
def firstMatch? (engine : SearchEngine) (log : List Write) (column : String) : Option Cell :=
  let writes := log.filterMap Write.pattern?
  ((writes.map Prod.fst).eraseDups.find? fun source => occurs engine source column.toLower).bind
    (Entries.lastValue? writes)

/-- The table that is given; an empty name gives none. -/
def given? (table : Option String) : Option String := table.filter fun name => name != ""

/-- What is found for a column by the log of a dialect: under its table and name if a table is given, else under its
name, else under a pattern. -/
def answer (engine : SearchEngine) (log : List Write) (table : Option String) (column : String) : Option Cell :=
  ((given? table).bind fun table => lastUnder? log (table ++ "." ++ column)).or
    ((lastUnder? log column).or (firstMatch? engine log column))

/-- The overrides are in step with a log. -/
structure Reflects (o : Overrides) (log : List Write) : Prop where
  columns : ∀ dialect key, Entries.get? (o.sectionOf dialect).columns key =
    Entries.lastValue? ((writesTo dialect log).filterMap Write.column?) key
  patterns : ∀ dialect, (o.sectionOf dialect).patterns =
    Entries.underTexts (Entries.ofPairs ((writesTo dialect log).filterMap Write.pattern?))

theorem reflects_empty : Reflects .empty [] := ⟨fun _ _ => rfl, fun _ => rfl⟩

/-! ## Changes of a section -/

/-- A pattern that is a text is compared as a key. -/
theorem setPattern_text (patterns : List (Cell × Cell)) (source : String) (type : Cell) :
    setPattern patterns (.text source) type = Entries.set patterns (.text source) type := by
  induction patterns with
  | nil => rfl
  | cons entry patterns ih =>
    obtain ⟨known, old⟩ := entry
    have hsame : samePattern known (.text source) = (known == .text source) := by
      cases known with
      | float x => cases x <;> rfl
      | _ => rfl
    rw [setPattern, @Entries.set.eq_2, ← setPattern, ih, Entries.set, ← hsame]
    rfl

theorem foldl_setPattern_underTexts (patterns : List (Cell × Cell)) (entries : List (String × Cell)) :
    (Entries.underTexts entries).foldl (fun patterns entry => setPattern patterns entry.1 entry.2) patterns =
      Entries.setAll patterns (Entries.underTexts entries) := by
  induction entries generalizing patterns with
  | nil => rfl
  | cons entry entries ih =>
    have hnext := ih (setPattern patterns (.text entry.1) entry.2)
    rw [setPattern_text] at hnext
    rw [Entries.underTexts, List.map_cons, List.foldl_cons, setPattern_text]
    exact hnext

theorem sectionOf_update (o : Overrides) (dialect other : String) (change : OverrideSection → OverrideSection) :
    (o.update dialect change).sectionOf other =
      if dialect = other then change (o.sectionOf dialect) else o.sectionOf other := by
  rw [update, sectionOf, Entries.get?_set]
  by_cases h : dialect = other
  · simp [h]
  · simp [h, sectionOf]

theorem writesTo_append (dialect : String) (log log' : List Write) :
    writesTo dialect (log ++ log') = writesTo dialect log ++ writesTo dialect log' := List.filter_append ..

theorem writesTo_of_forall {dialect : String} {ws : List Write} (h : ∀ w ∈ ws, w.dialect = dialect) :
    writesTo dialect ws = ws := by
  rw [writesTo, List.filter_eq_self]
  intro w hw
  simp [h w hw]

theorem writesTo_of_forall_ne {dialect : String} {ws : List Write} (h : ∀ w ∈ ws, w.dialect ≠ dialect) :
    writesTo dialect ws = [] := by
  rw [writesTo, List.filter_eq_nil_iff]
  intro w hw
  simp [h w hw]

/-- **A change of one section that sets what some writes say** keeps the overrides in step with the log. -/
theorem Reflects.update {o : Overrides} {log ws : List Write} {dialect : String}
    {change : OverrideSection → OverrideSection} (h : Reflects o log) (hdialect : ∀ w ∈ ws, w.dialect = dialect)
    (hcolumns : ∀ s key, Entries.get? (change s).columns key =
      (Entries.lastValue? (ws.filterMap Write.column?) key).or (Entries.get? s.columns key))
    (hpatterns : ∀ s, (change s).patterns =
      Entries.setAll s.patterns (Entries.underTexts (ws.filterMap Write.pattern?))) :
    Reflects (o.update dialect change) (log ++ ws) := by
  constructor
  · intro other key
    rw [sectionOf_update, writesTo_append, List.filterMap_append, Entries.lastValue?_append, ← h.columns]
    by_cases hother : dialect = other
    · subst hother
      rw [if_pos rfl, hcolumns, writesTo_of_forall hdialect]
    · have hnone : writesTo other ws = [] := writesTo_of_forall_ne fun w hw => hdialect w hw ▸ hother
      rw [if_neg hother, hnone]
      rfl
  · intro other
    rw [sectionOf_update, writesTo_append, List.filterMap_append, Entries.ofPairs, Entries.setAll_append,
      ← Entries.setAll_underTexts, ← Entries.ofPairs, ← h.patterns]
    by_cases hother : dialect = other
    · subst hother
      rw [if_pos rfl, hpatterns, writesTo_of_forall hdialect]
    · have hnone : writesTo other ws = [] := writesTo_of_forall_ne fun w hw => hdialect w hw ▸ hother
      rw [if_neg hother, hnone]
      rfl

/-! ## Look-up -/

/-- The name of a column, with that of its table and a point before it if a table is given. -/
def qualifiedName (table : Option String) (column : String) : String :=
  match given? table with
  | none => column
  | some table => table ++ "." ++ column

/-- A table is not given, or it has a name. -/
theorem given?_cases (table : Option String) :
    (given? table = none ∧ (table = none ∨ table = some "")) ∨
      ∃ name, name ≠ "" ∧ given? table = some name ∧ table = some name := by
  cases table with
  | none => exact .inl ⟨rfl, .inl rfl⟩
  | some name =>
    by_cases h : name = ""
    · subst h
      exact .inl ⟨rfl, .inr rfl⟩
    · exact .inr ⟨name, h, by simp [given?, h], rfl⟩

/-- The key of a column of ASCII names is its qualified name in lower case. -/
theorem columnKey_eq {table : Option String} {column : String} (h : IsAscii (qualifiedName table column).toList) :
    columnKey table column = (qualifiedName table column).toLower := by
  rw [qualifiedName] at h ⊢
  rcases given?_cases table with ⟨hgiven, rfl | rfl⟩ | ⟨name, hname, hgiven, rfl⟩
  · exact Text.lower_of_isAscii h
  · exact Text.lower_of_isAscii h
  · have hpoint : ".".toLower = "." := by simp [← String.toList_inj, Text.toList_toLower]
    simp only [hgiven, String.toList_append, Text.isAscii_append] at h ⊢
    rw [columnKey, Text.lower_of_isAscii h.1.1, Text.lower_of_isAscii h.2, Text.toLower_append, Text.toLower_append,
      hpoint]
    simpa using hname

/-- A column is searched by its table if that is given. -/
theorem qualified?_eq (s : OverrideSection) (table : Option String) (column : String) :
    OverrideSection.qualified? s table column =
      (given? table).bind fun table => Entries.get? s.columns (columnKey (some table) column) := by
  rcases given?_cases table with ⟨hgiven, rfl | rfl⟩ | ⟨name, hname, hgiven, rfl⟩
  · rfl
  · rfl
  · rw [hgiven, OverrideSection.qualified?]
    · rfl
    · simpa using hname

/-- A search by patterns that the engine knows finds the first that occurs. -/
theorem matchPatterns_underTexts {engine : SearchEngine} {name : String} {entries : List (String × Cell)}
    (h : ∀ entry ∈ entries, ∃ found, engine entry.1 = .ok found) :
    matchPatterns engine name (Entries.underTexts entries) =
      .ok ((entries.find? fun entry => occurs engine entry.1 name).map Prod.snd) := by
  induction entries with
  | nil => rfl
  | cons entry entries ih =>
    obtain ⟨⟨found, hfound⟩, hrest⟩ := List.forall_mem_cons.1 h
    have hoccurs : occurs engine entry.1 name = found name := by rw [occurs, hfound]
    have hstep : matchPatterns engine name (Entries.underTexts (entry :: entries)) =
        if found name then .ok (some entry.2) else matchPatterns engine name (Entries.underTexts entries) := by
      rw [Entries.underTexts, List.map_cons, matchPatterns, hfound]
      rfl
    rw [hstep, List.find?_cons, hoccurs, ih hrest]
    cases found name <;> rfl

/-- A column is looked up in the section of its dialect, which is empty if nothing is set. -/
theorem lookup_eq (engine : SearchEngine) (o : Overrides) (dialect : String) (table : Option String) {column : String}
    (hcolumn : column ≠ "") :
    o.lookup dialect table (some column) engine =
      match (OverrideSection.qualified? (o.sectionOf dialect) table column).or
          (Entries.get? (o.sectionOf dialect).columns (columnKey none column)) with
      | some type => .ok (some type)
      | none => matchPatterns engine (Text.lower column) (o.sectionOf dialect).patterns := by
  unfold lookup sectionOf
  cases Entries.get? o.sections dialect with
  | none =>
    have hnone : OverrideSection.qualified? {} table column = none := by
      rw [qualified?_eq]
      cases given? table <;> rfl
    rw [Option.getD_none, hnone]
    rfl
  | some s =>
    simp only [hcolumn, if_false, Option.getD_some]
    cases OverrideSection.qualified? s table column <;> rfl

/-- **What is found is told by the log**, of which the names are in ASCII and the patterns are known to the engine. -/
theorem Reflects.lookup {engine : SearchEngine} {o : Overrides} {log : List Write} (h : Reflects o log)
    (hproper : ∀ w ∈ log, w.IsProper engine) (dialect : String) {table : Option String} {column : String} (hcolumn : column ≠ "")
    (hascii : IsAscii column.toList) (htable : ∀ name ∈ table, IsAscii name.toList) :
    o.lookup dialect table (some column) engine = .ok (answer engine (writesTo dialect log) table column) := by
  have hunder : ∀ name : String, Entries.get? (o.sectionOf dialect).columns name.toLower =
      lastUnder? (writesTo dialect log) name := fun name => h.columns dialect name.toLower
  have hqualified : OverrideSection.qualified? (o.sectionOf dialect) table column =
      (given? table).bind fun table => lastUnder? (writesTo dialect log) (table ++ "." ++ column) := by
    rw [qualified?_eq]
    rcases given?_cases table with ⟨hgiven, -⟩ | ⟨name, hname, hgiven, rfl⟩
    · rw [hgiven]
      rfl
    · have hqualifiedName : qualifiedName (some name) column = name ++ "." ++ column := by
        rw [qualifiedName, hgiven]
      have hjoined : IsAscii (qualifiedName (some name) column).toList := by
        simp only [hqualifiedName, String.toList_append, Text.isAscii_append]
        exact ⟨⟨htable name rfl, by decide⟩, hascii⟩
      rw [hgiven, Option.bind_some, Option.bind_some, columnKey_eq hjoined, hqualifiedName, hunder]
  have hknown : ∀ entry ∈ Entries.ofPairs ((writesTo dialect log).filterMap Write.pattern?),
      ∃ found, engine entry.1 = .ok found := by
    intro entry hentry
    have hkey : entry.1 ∈ ((writesTo dialect log).filterMap Write.pattern?).map Prod.fst := by
      rw [← List.mem_eraseDups, ← Entries.keys_ofPairs]
      exact List.mem_map_of_mem hentry
    obtain ⟨pair, hpair, hsource⟩ := List.mem_map.1 hkey
    obtain ⟨w, hw, hpattern⟩ := List.mem_filterMap.1 hpair
    have hw' := hproper w (List.mem_of_mem_filter hw)
    obtain ⟨dialect', place, type⟩ := w
    cases place with
    | column name => cases hpattern
    | pattern source =>
      cases hpattern
      exact hsource ▸ hw'
  have hname : qualifiedName none column = column := rfl
  have hmatch := Entries.find?_ofPairs ((writesTo dialect log).filterMap Write.pattern?) (occurs engine · column.toLower)
  rw [lookup_eq engine o dialect table hcolumn, hqualified, columnKey_eq (hname ▸ hascii), hname, hunder, h.patterns,
    matchPatterns_underTexts hknown, Text.lower_of_isAscii hascii, hmatch, answer, firstMatch?, ← Option.or_assoc]
  cases ((given? table).bind fun table => lastUnder? (writesTo dialect log) (table ++ "." ++ column)).or
    (lastUnder? (writesTo dialect log) column) <;> rfl

end Overrides

end TypedRows
