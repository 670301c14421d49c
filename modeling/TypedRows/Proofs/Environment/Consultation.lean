import TypedRows.Environment
/-!
# Running a session

A session in an environment gives an outcome and leaves an environment. `Session.runIn_bind` runs two steps one
after another, `Session.runIn_consult` finds the overrides of an environment, and `Session.runIn_consulting` runs
what only asks these overrides.
-/

namespace TypedRows.Session

variable {α β : Type}

theorem runIn_ofExcept (outcome : Except Error α) (env : Environment) :
    (ofExcept outcome).runIn env = (outcome, env) := rfl

theorem runIn_pure (x : α) (env : Environment) : (pure x : Session α).runIn env = (.ok x, env) := rfl

theorem runIn_bind (first : Session α) (next : α → Session β) (env : Environment) :
    (first >>= next).runIn env =
      match first.runIn env with
      | (.ok a, env') => (next a).runIn env'
      | (.error e, env') => (.error e, env') := by
  simp only [runIn, bind, ExceptT.bind, ExceptT.mk, ExceptT.run, StateT.run, StateT.bind]
  cases first env with
  | mk outcome env' => cases outcome <;> rfl

/-- A session that succeeds does so step by step. -/
theorem exists_of_bind_ok {first : Session α} {next : α → Session β} {env env' : Environment} {y : β}
    (h : (first >>= next).runIn env = (.ok y, env')) :
    ∃ a between, first.runIn env = (.ok a, between) ∧ (next a).runIn between = (.ok y, env') := by
  rw [runIn_bind] at h
  cases hrun : first.runIn env with
  | mk outcome between =>
    rw [hrun] at h
    cases outcome with
    | error e => cases h
    | ok a => exact ⟨a, between, rfl, h⟩

/-- The overrides of the environment are consulted; if there are none yet, those of the default file. -/
theorem runIn_consult (env : Environment) :
    consult.runIn env =
      match env.overrides with
      | some overrides => (.ok overrides, env)
      | none =>
        match merged .empty (defaultFile env) with
        | (.ok (), overrides) => (.ok overrides, { env with overrides := some overrides })
        | (.error e, _) => (.error e, env) := by
  have hget : (get : Session Environment).runIn env = (.ok env, env) := rfl
  rw [consult, runIn_bind, hget]
  dsimp only
  cases env.overrides with
  | some overrides => rfl
  | none =>
    cases merged .empty (defaultFile env) with
    | mk outcome overrides => cases outcome <;> rfl

/-- Where the default file fails to merge, consulting the overrides changes nothing. -/
theorem runIn_consult_cases (env : Environment) :
    (∃ overrides env', consult.runIn env = (.ok overrides, env')) ∨ ∃ e, consult.runIn env = (.error e, env) := by
  rw [runIn_consult]
  cases env.overrides with
  | some overrides => exact .inl ⟨overrides, env, rfl⟩
  | none =>
    cases merged .empty (defaultFile env) with
    | mk outcome overrides =>
      cases outcome with
      | ok _ => exact .inl ⟨overrides, _, rfl⟩
      | error e => exact .inr ⟨e, rfl⟩

/-- What is asked of the overrides is answered by those that are consulted. -/
theorem runIn_consulting (answer : Overrides → Except Error α) (env : Environment) :
    (do ofExcept (answer (← consult)) : Session α).runIn env =
      match consult.runIn env with
      | (.ok overrides, env') => (answer overrides, env')
      | (.error e, env') => (.error e, env') := by
  rw [runIn_bind]
  cases consult.runIn env with
  | mk outcome env' => cases outcome <;> rfl

theorem runIn_consult_of_some {env : Environment} {overrides : Overrides} (h : env.overrides = some overrides) :
    consult.runIn env = (.ok overrides, env) := by
  rw [runIn_consult, h]

/-- The overrides are consulted; if there are any, the file is merged into them. -/
theorem runIn_load_eq (env : Environment) (content : Option Bytes) :
    (load content).runIn env =
      match consult.runIn env with
      | (.ok overrides, env') =>
        ((merged overrides content).1, { env' with overrides := some (merged overrides content).2 })
      | (.error e, env') => (.error e, env') := by
  rw [load, runIn_bind]
  cases consult.runIn env with
  | mk outcome env' =>
    cases outcome with
    | error e => rfl
    | ok overrides =>
      dsimp only
      cases merged overrides content with
      | mk outcome overrides' => cases outcome <;> rfl

/-- A file is merged into the overrides of the environment; what it has changed stays changed if it fails. -/
theorem runIn_load {env : Environment} {overrides : Overrides} (h : env.overrides = some overrides)
    (content : Option Bytes) :
    (load content).runIn env =
      ((merged overrides content).1, { env with overrides := some (merged overrides content).2 }) := by
  rw [runIn_load_eq, runIn_consult_of_some h]

theorem runIn_change {env : Environment} {overrides : Overrides} (h : env.overrides = some overrides)
    (f : Overrides → Overrides) :
    (change f).runIn env = (.ok (), { env with overrides := some (f overrides) }) := by
  rw [change, runIn_bind, runIn_consult_of_some h]
  rfl

end TypedRows.Session
