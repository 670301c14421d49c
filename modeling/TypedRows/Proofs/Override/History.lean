import TypedRows.Proofs.Environment.Consultation
import TypedRows.Proofs.Override.Merging
/-!
# Histories of overrides

Overrides are changed by files and by single calls, in any order. `Step.writes?` says what a step writes, and
`Step.logs_call` that the step succeeds and logs this. A history is followed by induction (`Logged.logs`), so that a
look-up after it is answered by its log.

How a pattern is searched for plays no part in this: the statements hold for every engine, and for the patterns that
the engine knows.

Main statement: `lookup_after`, for every history of steps on fresh overrides.
-/

namespace TypedRows

open Text (IsAscii)

namespace Overrides

/-! ## Histories -/

/-- A step that changes the overrides. -/
inductive Step where
  /-- The content of a file is merged; there is none if the file is missing. -/
  | load (content : Option Bytes)
  | addColumn (dialect : String) (table : Option String) (column : String) (type : Cell)
  | addPattern (dialect source : String) (type : Cell)

namespace Step

/-- The step in a session. -/
def call : Step → Session Unit
  | .load content => Session.load content
  | .addColumn dialect table column type => Session.change fun o => o.addColumn dialect table column type
  | .addPattern dialect source type => Session.change fun o => o.addPattern dialect (.text source) type

/-- What a step writes. A file that is missing or cannot be read writes nothing. -/
def writes? : Step → Option (List Write)
  | .load content =>
    match content.bind Document.ofBytes? with
    | none => some []
    | some document => documentWrites? document
  | .addColumn dialect table column type => some [⟨dialect, .column (qualifiedName table column), type⟩]
  | .addPattern dialect source type => some [⟨dialect, .pattern source, type⟩]

end Step

/-- What a history of steps writes. -/
def historyWrites? : List Step → Option (List Write)
  | [] => some []
  | step :: steps => do some ((← step.writes?) ++ (← historyWrites? steps))

/-- The files of a history are in shape, and the history writes a log of which the names are in ASCII and the patterns
are known to the engine. -/
structure Logged (engine : SearchEngine) (steps : List Step) (log : List Write) : Prop where
  writes : historyWrites? steps = some log
  proper : ∀ w ∈ log, w.IsProper engine

theorem historyWrites?_append (steps steps' : List Step) :
    historyWrites? (steps ++ steps') =
      (do some ((← historyWrites? steps) ++ (← historyWrites? steps'))) := by
  induction steps with
  | nil => cases h : historyWrites? steps' <;> simp [historyWrites?, h]
  | cons step steps ih =>
    rw [List.cons_append, historyWrites?, historyWrites?, ih]
    cases step.writes? with
    | none => rfl
    | some first =>
      cases historyWrites? steps with
      | none => rfl
      | some rest =>
        cases historyWrites? steps' with
        | none => rfl
        | some log' => exact congrArg some (List.append_assoc ..).symm

theorem Logged.append {engine : SearchEngine} {steps steps' : List Step} {log log' : List Write}
    (h : Logged engine steps log) (h' : Logged engine steps' log') :
    Logged engine (steps ++ steps') (log ++ log') := by
  constructor
  · rw [historyWrites?_append, h.writes, h'.writes]
    rfl
  · exact List.forall_mem_append.2 ⟨h.proper, h'.proper⟩

/-- The single step that writes a type. -/
def Write.step (w : Write) : Step :=
  match w.place with
  | .column name => .addColumn w.dialect none name w.type
  | .pattern source => .addPattern w.dialect source w.type

/-- Whatever is written can be written step by step. -/
theorem logged_map_step {engine : SearchEngine} {ws : List Write} (h : ∀ w ∈ ws, w.IsProper engine) :
    Logged engine (ws.map Write.step) ws := by
  refine ⟨?_, h⟩
  clear h
  induction ws with
  | nil => rfl
  | cons w ws ih =>
    have hstep : w.step.writes? = some [w] := by
      obtain ⟨dialect, place, type⟩ := w
      cases place <;> rfl
    rw [List.map_cons, historyWrites?, hstep, ih]
    rfl

/-- A session succeeds and writes: if its overrides were in step with a log they are so with the longer log. -/
def Logs (s : Session Unit) (ws : List Write) : Prop :=
  ∀ env o log, env.overrides = some o → Reflects o log →
    ∃ o', s.runIn env = (.ok (), { env with overrides := some o' }) ∧ Reflects o' (log ++ ws)

theorem logs_load {content : Option Bytes} {ws : List Write} (h : Merges (merge content) ws) :
    Logs (Session.load content) ws := by
  intro env o log henv hreflects
  obtain ⟨o', hrun, hreflects'⟩ := h o log hreflects
  refine ⟨o', ?_, hreflects'⟩
  have hmerged : Session.merged o content = (.ok (), o') := hrun
  rw [Session.runIn_load henv, hmerged]

theorem logs_change {f : Overrides → Overrides} {ws : List Write}
    (h : ∀ o log, Reflects o log → Reflects (f o) (log ++ ws)) : Logs (Session.change f) ws :=
  fun _ o log henv hreflects => ⟨f o, Session.runIn_change henv f, h o log hreflects⟩

/-- **Every step logs what it writes.** -/
theorem Step.logs_call {engine : SearchEngine} {step : Step} {ws : List Write} (h : step.writes? = some ws)
    (hproper : ∀ w ∈ ws, w.IsProper engine) : Logs step.call ws := by
  cases step with
  | load content =>
    refine logs_load ?_
    rw [merge]
    rw [writes?] at h
    cases hdocument : content.bind Document.ofBytes? with
    | none =>
      rw [hdocument] at h
      cases h
      exact merges_pure
    | some document =>
      rw [hdocument] at h
      exact merges_mergeDocument h hproper
  | addColumn dialect table column type =>
    cases h
    have hkey : columnKey table column = (qualifiedName table column).toLower :=
      columnKey_eq (hproper _ List.mem_cons_self)
    refine logs_change fun o log hreflects => hreflects.update (by simp) ?_ fun s => rfl
    intro s key
    rw [hkey, Entries.get?_set]
    simp only [List.filterMap_cons, Write.column?, List.filterMap_nil, Entries.lastValue?_cons]
    cases (qualifiedName table column).toLower == key <;> rfl
  | addPattern dialect source type =>
    cases h
    exact logs_change fun o log hreflects =>
      hreflects.update (by simp) (fun s key => rfl) fun s => setPattern_text s.patterns source type

/-- **A history succeeds and logs what its steps write.** -/
theorem Logged.logs {engine : SearchEngine} {steps : List Step} {log : List Write} (h : Logged engine steps log) :
    Logs (steps.forM Step.call) log := by
  obtain ⟨hwrites, hproper⟩ := h
  induction steps generalizing log with
  | nil =>
    cases hwrites
    intro env o log henv hreflects
    refine ⟨o, ?_, by rwa [List.append_nil]⟩
    rw [← henv]
    rfl
  | cons step steps ih =>
    simp only [historyWrites?, Option.bind_eq_bind, Option.bind_eq_some_iff, Option.some.injEq] at hwrites
    obtain ⟨first, hfirst, rest, hrest, rfl⟩ := hwrites
    rw [List.forall_mem_append] at hproper
    intro env o log henv hreflects
    obtain ⟨o', hrun, hreflects'⟩ := Step.logs_call hfirst hproper.1 env o log henv hreflects
    obtain ⟨o'', hrun', hreflects''⟩ := ih hrest hproper.2 { env with overrides := some o' } o' _ rfl hreflects'
    refine ⟨o'', ?_, by rwa [← List.append_assoc]⟩
    have hforM : (step :: steps).forM Step.call = (do step.call; steps.forM Step.call) := rfl
    rw [hforM, Session.runIn_bind, hrun]
    exact hrun'

/-- What is found for a column after a history of steps on fresh overrides. -/
def lookupAfter (engine : SearchEngine) (env : Environment) (steps : List Step) (dialect : String)
    (table : Option String) (column : String) : Except Error (Option Cell) :=
  ((do
    steps.forM Step.call
    Session.lookup dialect table (some column) engine : Session (Option Cell)).runIn
      { env with overrides := some .empty }).1

section

variable (engine : SearchEngine) (env : Environment) (dialect : String) {table : Option String} {column : String}
  (hcolumn : column ≠ "") (hascii : IsAscii column.toList) (htable : ∀ name ∈ table, IsAscii name.toList)

include hcolumn hascii htable

theorem lookupAfter_eq {steps : List Step} {log : List Write} (h : Logged engine steps log) :
    lookupAfter engine env steps dialect table column = .ok (answer engine (writesTo dialect log) table column) := by
  obtain ⟨o, hrun, hreflects⟩ := h.logs { env with overrides := some .empty } .empty [] rfl reflects_empty
  have hlookup := Session.runIn_consulting (fun overrides => overrides.lookup dialect table (some column) engine)
    { env with overrides := some o }
  rw [Session.runIn_consult_of_some rfl] at hlookup
  rw [lookupAfter, Session.runIn_bind, hrun]
  refine (congrArg Prod.fst hlookup).trans ?_
  exact hreflects.lookup h.proper dialect hcolumn hascii htable

/-- Parts of a history that write the same for a dialect can take the place of each other. -/
theorem lookupAfter_congr {before part part' after : List Step} {b ws ws' a : List Write}
    (hbefore : Logged engine before b) (hafter : Logged engine after a) (hpart : Logged engine part ws)
    (hpart' : Logged engine part' ws') (hsame : writesTo dialect ws = writesTo dialect ws') :
    lookupAfter engine env (before ++ part ++ after) dialect table column =
      lookupAfter engine env (before ++ part' ++ after) dialect table column := by
  rw [lookupAfter_eq engine env dialect hcolumn hascii htable ((hbefore.append hpart).append hafter),
    lookupAfter_eq engine env dialect hcolumn hascii htable ((hbefore.append hpart').append hafter)]
  simp only [writesTo_append, hsame]

/-- **The look-up of a column refines the log of all writes**, whatever engine searches for the patterns. A file and
single steps that write the same can take the place of each other, and steps for other dialects never change a
look-up. -/
theorem lookup_after :
    (∀ steps log, Logged engine steps log →
      lookupAfter engine env steps dialect table column = .ok (answer engine (writesTo dialect log) table column)) ∧
    (∀ before content after b ws a, Logged engine before b → Logged engine [.load content] ws →
      Logged engine after a →
      Logged engine (ws.map Write.step) ws ∧ ∀ steps, Logged engine steps ws →
        lookupAfter engine env (before ++ [.load content] ++ after) dialect table column =
          lookupAfter engine env (before ++ steps ++ after) dialect table column) ∧
    ∀ before steps after b ws a, Logged engine before b → Logged engine steps ws → Logged engine after a →
      (∀ w ∈ ws, w.dialect ≠ dialect) →
      lookupAfter engine env (before ++ steps ++ after) dialect table column =
        lookupAfter engine env (before ++ after) dialect table column := by
  refine ⟨fun steps log h => lookupAfter_eq engine env dialect hcolumn hascii htable h, ?_, ?_⟩
  · intro before content after b ws a hbefore hload hafter
    refine ⟨logged_map_step hload.proper, fun steps hsteps => ?_⟩
    exact lookupAfter_congr engine env dialect hcolumn hascii htable hbefore hafter hload hsteps rfl
  · intro before steps after b ws a hbefore hsteps hafter hother
    have hnothing : Logged engine [] [] := ⟨rfl, by simp⟩
    have hsame : writesTo dialect ws = writesTo dialect [] := writesTo_of_forall_ne hother
    have hcongr := lookupAfter_congr engine env dialect hcolumn hascii htable hbefore hafter hsteps hnothing hsame
    rwa [List.append_nil] at hcongr

end

/-- A file is found as the single steps that write its types, whatever is set for another dialect. -/
theorem lookup_after_loaded :
    let file : Option Bytes := some "\x7b\"sqlite\": \x7b\"columns\": \x7b\"T.a\": \"DATE\"\x7d\x7d\x7d".toUTF8.toList
    ∃ ws, Logged patternSearch [.load file] ws ∧
      lookupAfter patternSearch {} [.load file] "sqlite" (some "t") "A" =
        .ok (answer patternSearch (writesTo "sqlite" ws) (some "t") "A") ∧
      lookupAfter patternSearch {} [.load file, .addPattern "odbc" "(?i)(A)\\1" (.text "TIME")] "sqlite" (some "t") "A" =
        lookupAfter patternSearch {} (ws.map Write.step) "sqlite" (some "t") "A" := by
  intro file
  have hloaded : (historyWrites? [.load file]).any (fun ws => ws.all fun w => decide (w.IsProper patternSearch)) =
      true := by
    decide +kernel
  obtain ⟨ws, hwrites, hproper⟩ := (Option.any_eq_true _ _).1 hloaded
  have hload : Logged patternSearch [.load file] ws := ⟨hwrites, by simpa using hproper⟩
  have hpattern : Logged patternSearch [.addPattern "odbc" "(?i)(A)\\1" (.text "TIME")]
      [⟨"odbc", .pattern "(?i)(A)\\1", .text "TIME"⟩] :=
    ⟨rfl, by decide +kernel⟩
  have hnothing : Logged patternSearch [] [] := ⟨rfl, by simp⟩
  have hcolumn : "A" ≠ "" := by decide
  have htable : ∀ name ∈ some "t", IsAscii name.toList := by decide
  obtain ⟨hanswer, hsame, hother⟩ := lookup_after patternSearch {} "sqlite" hcolumn (by decide) htable
  obtain ⟨hsteps, hsame⟩ := hsame [] file [] [] ws [] hnothing hload hnothing
  refine ⟨ws, hload, hanswer _ _ hload, ?_⟩
  have hpatternless := hother [.load file] _ [] _ _ _ hload hpattern hnothing (by decide)
  have hreplaced := hsame _ hsteps
  simp only [List.nil_append, List.append_nil] at hpatternless hreplaced
  exact hpatternless.trans hreplaced

end Overrides

end TypedRows
