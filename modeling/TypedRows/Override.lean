import TypedRows.Override.Document
import TypedRows.Text.LetterCase
/-!
# Type overrides

`Overrides` gives columns another type than the driver reports, for each dialect apart. A column is
looked up by its table and name, then by its name alone, and then by the patterns in the order in which
they were first set; case does not matter.

| Definition | Function of `TypeMappingConfig` |
|---|---|
| `Overrides.lookup` | `get_type_for_column` |
| `Overrides.addColumn`, `Overrides.addPattern` | `add_column_mapping`, `add_pattern_mapping` |
| `Overrides.merge` | `load_config`: the content of a document, up to the place where its shape goes wrong |
-/

namespace TypedRows

/-- A way to search by patterns: what a pattern says of a text, or why there is no such pattern. -/
abbrev SearchEngine := String → Except Error (String → Bool)

/-- The search that is used unless another is given. -/
def patternSearch : SearchEngine := fun source =>
  match Text.Pattern.ofText source with
  | .ok pattern => .ok pattern.occursIn
  | .error e => .error (.ofPattern e)

/-- The overrides of a dialect. The keys of `columns` are names, or tables and names with a point
between them, in lower case. -/
structure OverrideSection where
  patterns : List (Cell × Cell) := []
  columns : List (String × Cell) := []
deriving Inhabited

structure Overrides where
  sections : List (String × OverrideSection) := []
deriving Inhabited

namespace Overrides

def empty : Overrides := ⟨[]⟩

def sectionOf (o : Overrides) (dialect : String) : OverrideSection :=
  (Entries.get? o.sections dialect).getD {}

def update (o : Overrides) (dialect : String) (change : OverrideSection → OverrideSection) :
    Overrides :=
  ⟨Entries.set o.sections dialect (change (o.sectionOf dialect))⟩

/-- The key of a column, with its table if that is given. -/
def columnKey (table : Option String) (column : String) : String :=
  match table with
  | none | some "" => Text.lower column
  | some table => Text.lower table ++ "." ++ Text.lower column

/-- The overrides with the type of a column set (`add_column_mapping`). -/
def addColumn (o : Overrides) (dialect : String) (table : Option String) (column : String)
    (type : Cell) : Overrides :=
  o.update dialect fun s => { s with columns := Entries.set s.columns (columnKey table column) type }

/-- Two patterns are one. They are compared as keys are, save that the undefined number is itself: all documents share
it as one object. -/
def samePattern : Cell → Cell → Bool
  | .float .nan, .float .nan => true
  | a, b => a == b

/-- The patterns with the type of one set. -/
def setPattern (patterns : List (Cell × Cell)) (pattern type : Cell) : List (Cell × Cell) :=
  @Entries.set Cell Cell ⟨samePattern⟩ patterns pattern type

def addPattern (o : Overrides) (dialect : String) (pattern type : Cell) : Overrides :=
  o.update dialect fun s => { s with patterns := setPattern s.patterns pattern type }

/-! ## Look-up -/

/-- The type set for the first pattern that occurs in a name. -/
def matchPatterns (engine : SearchEngine) (name : String) : List (Cell × Cell) → Except Error (Option Cell)
  | [] => .ok none
  | (.text source, type) :: rest =>
    match engine source with
    | .error e => .error e
    | .ok occurs => if occurs name then .ok (some type) else matchPatterns engine name rest
  | _ :: _ => failType .notPattern

/-- The type set for a column by its table, if one is given. -/
def OverrideSection.qualified? (s : OverrideSection) (table : Option String) (column : String) :
    Option Cell :=
  match table with
  | none | some "" => none
  | some table => Entries.get? s.columns (columnKey (some table) column)

/-- The type set for a column (`get_type_for_column`). A column without a name has none. -/
def lookup (o : Overrides) (dialect : String) (table column : Option String)
    (engine : SearchEngine := patternSearch) : Except Error (Option Cell) :=
  match Entries.get? o.sections dialect, column with
  | some s, some column =>
    if column = "" then .ok none
    else
      match OverrideSection.qualified? s table column with
      | some type => .ok (some type)
      | none =>
        match Entries.get? s.columns (columnKey none column) with
        | some type => .ok (some type)
        | none => matchPatterns engine (Text.lower column) s.patterns
  | _, _ => .ok none

/-! ## Documents -/

/-- Overrides that change in the course of a computation, also if it fails. -/
abbrev Merging := ExceptT Error (StateM Overrides)

def modifySection (dialect : String) (change : OverrideSection → OverrideSection) : Merging Unit :=
  modify fun o => o.update dialect change

/-- The value of a member of an object. -/
def member? (value : Cell) (name : String) : Except Error (Option Cell) :=
  match value with
  | .map entries => .ok (Entries.get? entries (.text name))
  | _ => .error (.attribute value.fullTypeName "get")

/-- The text in a cell, which is empty for a cell without text. -/
def textOf (cell : Cell) : String := (cell.asText?).getD ""

def members (value : Cell) : Except Error (List (String × Cell)) :=
  match value with
  | .map entries => .ok (entries.map fun entry => (textOf entry.1, entry.2))
  | _ => .error (.attribute value.fullTypeName "items")

/-- One item of a list of patterns with types, at a position: a sequence of two. -/
def patternEntry (position : Nat) (item : Cell) : Except Error (Cell × Cell) :=
  match item.items with
  | .error _ => failType (.notEntry position)
  | .ok [pattern, type] => pattern.checkKey.map fun _ => (pattern, type)
  | .ok items => failValue (.entrySize position items.length)

/-- Sets the patterns that a list gives, in order up to the first item that is not a pattern with a
type. -/
def mergePatternItems (dialect : String) : Nat → List Cell → Merging Unit
  | _, [] => return ()
  | position, item :: rest => do
    let (pattern, type) ← patternEntry position item
    modifySection dialect fun s => { s with patterns := setPattern s.patterns pattern type }
    mergePatternItems dialect (position + 1) rest

/-- Sets the patterns that an object gives by name or a list gives in pairs. -/
def mergePatterns (dialect : String) (value : Cell) : Merging Unit :=
  match value with
  | .map entries =>
    modifySection dialect fun s =>
      { s with patterns := entries.foldl (fun patterns entry => setPattern patterns entry.1 entry.2) s.patterns }
  | value => do mergePatternItems dialect 0 (← value.items)

/-- Sets the columns that an object gives by name. -/
def mergeColumns (dialect : String) (value : Cell) : Merging Unit := do
  let named ← members value
  let columns := Entries.ofPairs (named.map fun entry => (Text.lower entry.1, entry.2))
  modifySection dialect fun s => { s with columns := Entries.setAll s.columns columns }

/-- Adds the overrides of a dialect: the patterns first, then the columns. -/
def mergeSection (dialect : String) (value : Cell) : Merging Unit := do
  modifySection dialect id
  if let some patterns ← member? value "patterns" then mergePatterns dialect patterns
  if let some columns ← member? value "columns" then mergeColumns dialect columns

/-- Adds the overrides that a document holds, dialect by dialect. -/
def mergeDocument (document : Cell) : Merging Unit := do
  (← members document).forM fun entry => mergeSection entry.1 entry.2

/-- Adds the overrides in the content of a file (`load_config`). A file that is missing or holds no document adds
nothing. -/
def merge (content : Option Bytes) : Merging Unit :=
  match content.bind Document.ofBytes? with
  | none => return ()
  | some document => mergeDocument document

end Overrides

end TypedRows
