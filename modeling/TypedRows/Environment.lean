import TypedRows.Override
/-!
# The environment of a session

A session shares one set of overrides (`TypeMappingConfig.get_instance`). It is read from an override file the
first time that it is consulted: the first that exists in the home directory, among the settings of the system and in
the working directory. A `Session` is a computation in such an environment; what it has changed stays changed if it
fails.
-/

namespace TypedRows

/-- The overrides of a session and the files that they can be read from. -/
structure Environment where
  /-- The override file in the home directory. -/
  home : Option Bytes := none
  /-- The override file among the settings of the system. -/
  system : Option Bytes := none
  /-- The override file in the working directory. -/
  working : Option Bytes := none
  /-- The shared overrides, once they have been consulted. -/
  overrides : Option Overrides := none
deriving Inhabited

abbrev Session := ExceptT Error (StateM Environment)

inductive FilePlace where
  | home
  | system
  | working
deriving DecidableEq, Repr

namespace Session

/-- Lifts a computation that needs no environment. -/
def ofExcept {α : Type} (outcome : Except Error α) : Session α := ExceptT.mk (pure outcome)

/-- The outcome of a session and the environment that it leaves. -/
def runIn {α : Type} (s : Session α) (environment : Environment) : Except Error α × Environment :=
  StateT.run (m := Id) (ExceptT.run s) environment

/-- The override file that is read when the overrides are first consulted (`DEFAULT_LOCATIONS`). -/
def defaultFile (environment : Environment) : Option Bytes :=
  environment.home <|> environment.system <|> environment.working

/-- The overrides after the content of a file was merged into them, and whether that failed. -/
def merged (overrides : Overrides) (content : Option Bytes) : Except Error Unit × Overrides :=
  StateT.run (m := Id) (ExceptT.run (Overrides.merge content)) overrides

/-- The shared overrides (`get_instance`). If the default file fails to merge there are none yet. -/
def consult : Session Overrides := do
  let environment ← get
  match environment.overrides with
  | some overrides => return overrides
  | none =>
    let (outcome, overrides) := merged .empty (defaultFile environment)
    ofExcept outcome
    set { environment with overrides := some overrides }
    return overrides

/-- Merges the content of a file into the shared overrides (`load_config`). -/
def load (content : Option Bytes) : Session Unit := do
  let (outcome, overrides) := merged (← consult) content
  modify fun environment => { environment with overrides := some overrides }
  ofExcept outcome

/-- Replaces the shared overrides by those of a file. If it fails to merge the old ones stay. -/
def renew (content : Option Bytes) : Session Unit := do
  let (outcome, overrides) := merged .empty content
  ofExcept outcome
  modify fun environment => { environment with overrides := some overrides }

def reset : Session Unit := modify fun environment => { environment with overrides := none }

def put (place : FilePlace) (content : Bytes) : Session Unit :=
  modify fun environment =>
    match place with
    | .home => { environment with home := some content }
    | .system => { environment with system := some content }
    | .working => { environment with working := some content }

def change (f : Overrides → Overrides) : Session Unit := do
  let overrides ← consult
  modify fun environment => { environment with overrides := some (f overrides) }

/-- The override set for a column. -/
def lookup (dialect : String) (table column : Option String) (engine : SearchEngine := patternSearch) :
    Session (Option Cell) := do
  ofExcept ((← consult).lookup dialect table column engine)

end Session

end TypedRows
