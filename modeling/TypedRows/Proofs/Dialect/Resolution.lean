import TypedRows.Column.Description
import TypedRows.Proofs.Environment.Consultation
/-!
# Declared types

The type of a column is looked up among the overrides first, and only then found from what the driver tells
(`resolveWith_eq`). SQLite tells nothing, so the type that a table declares for a column takes the place of the
driver's code or of the type name. The two places are not alike: a code is read by the names of table declarations
alone, a type name by the general names too. They tell the same of a column (`Agree`) unless no override applies and
its declared type is a general name that table declarations do not know.

Main statement: `Session.resolve_declared_agree_iff`.
-/

namespace TypedRows

/-! ## Overrides before the driver -/

/-- The type of a column, given the outcome of its look-up among the overrides: an override that counts as true
decides, and the driver is asked only if there is none. -/
def resolveFound (dialect : Dialect) (code : Cell) (column typeName : Option String)
    (found : Except Error (Option Cell)) : Except Error SqlType :=
  match found with
  | .error e => .error e
  | .ok found =>
    match found.filter Cell.truth with
    | some type => SqlType.coerce type column
    | none => resolveDriver dialect code column typeName

theorem resolveWith_eq (overrides : Overrides) (dialect : Dialect) (code : Cell) (column table typeName : Option String) :
    resolveWith overrides dialect code column table typeName =
      resolveFound dialect code column typeName (overrides.lookup dialect.name table column) := by
  unfold resolveWith
  cases overrides.lookup dialect.name table column with
  | error e => rfl
  | ok found => rfl

namespace Session

theorem runIn_dialect_eq (name : String) (env : Environment) :
    (dialect name).runIn env =
      match Dialect.ofName? name with
      | some d => (.ok d, env)
      | none => (.error (.value .dialect), env) := by
  rw [dialect]
  cases Dialect.ofName? name with
  | some d => rfl
  | none => rfl

theorem runIn_dialect (d : Dialect) (env : Environment) : (dialect d.name).runIn env = (.ok d, env) := by
  rw [runIn_dialect_eq, Dialect.ofName?_name]

/-- The outcome of looking a column up in an environment. -/
def lookupIn (env : Environment) (d : Dialect) (table column : Option String) : Except Error (Option Cell) :=
  ((lookup d.name table column).runIn env).1

/-- **A column is resolved by the outcome of its look-up**, and in no other way do the overrides matter. -/
theorem runIn_resolve (d : Dialect) (code : Cell) (column table typeName : Option String) (env : Environment) :
    (resolve d.name code column table typeName).runIn env =
      (resolveFound d code column typeName (lookupIn env d table column), (consult.runIn env).2) := by
  have hlookup : (lookup d.name table column).runIn env = _ :=
    runIn_consulting (fun overrides => overrides.lookup d.name table column) env
  have hresolve := runIn_consulting (fun overrides => resolveWith overrides d code column table typeName) env
  rw [resolve, runIn_bind, runIn_dialect, lookupIn, hlookup]
  dsimp only
  rw [hresolve]
  cases consult.runIn env with
  | mk outcome env' =>
    cases outcome with
    | error e => rfl
    | ok overrides => exact congrArg (·, env') (resolveWith_eq overrides d code column table typeName)

end Session

/-! ## A declared type as the code and as the type name -/

theorem declaredType_text (declared : String) : declaredType (.text declared) = SqlType.ofDeclaredName? declared := by
  have htext : (Cell.text declared).asText? = some declared := rfl
  rw [declaredType, htext, Option.bind_some]

/-- As the code, a declared type is read by the names of table declarations. -/
theorem resolveDriver_code (declared : String) (column : Option String) :
    resolveDriver .sqlite (.text declared) column none =
      match SqlType.ofDeclaredName? declared with
      | some t => .ok t
      | none => .error (.unsupported (.driverCode .sqlite (.text declared) column)) := by
  simp only [resolveDriver, Dialect.typeOf, declaredType_text]
  cases SqlType.ofDeclaredName? declared with
  | some t => rfl
  | none => rfl

theorem ofDeclaredName?_empty : SqlType.ofDeclaredName? "" = none := by decide

theorem ofTypeName?_empty : SqlType.ofTypeName? "" = none := by decide

/-- As the type name, a declared type is read by the names of table declarations and then by the general names. -/
theorem resolveDriver_name (declared : String) (column : Option String) :
    ∃ e, resolveDriver .sqlite .null column (some declared) =
      match SqlType.ofDeclaredName? declared, SqlType.ofTypeName? declared with
      | some t, _ => .ok t
      | none, some t => .ok t
      | none, none => .error (.unsupported e) := by
  by_cases hempty : declared = ""
  · subst hempty
    rw [ofDeclaredName?_empty, ofTypeName?_empty]
    exact ⟨_, rfl⟩
  · have hcoerce : SqlType.coerce (.text declared) column =
        match SqlType.ofTypeName? declared with
        | some t => .ok t
        | none => .error (.unsupported (.typeName (.text declared) column)) := by
      have hname : SqlType.ofCell? (.text declared) = SqlType.ofTypeName? declared := rfl
      rw [SqlType.coerce, hname]
      cases SqlType.ofTypeName? declared with
      | some t => rfl
      | none => rfl
    refine ⟨.typeName (.text declared) column, ?_⟩
    have hnull : Dialect.sqlite.typeOf .null = .ok none := rfl
    simp only [resolveDriver, hnull]
    cases SqlType.ofDeclaredName? declared with
    | some t => simp [bind, Except.bind, pure, Except.pure]
    | none =>
      simp only [bind, Except.bind, hcoerce]
      cases SqlType.ofTypeName? declared with
      | some t => rfl
      | none => rfl

/-- Two ways of finding a type tell the same: the same type, or that it is not supported, or the same failure. -/
inductive Agree : Except Error SqlType → Except Error SqlType → Prop where
  | found (t : SqlType) : Agree (.ok t) (.ok t)
  | unsupported (e e' : Unsupported) : Agree (.error (.unsupported e)) (.error (.unsupported e'))
  | failed (e : Error) : Agree (.error e) (.error e)

theorem Agree.refl (outcome : Except Error SqlType) : Agree outcome outcome := by
  cases outcome with
  | ok t => exact .found t
  | error e => exact .failed e

/-- A general name of a type that table declarations do not know. -/
def SqlType.IsUnlisted (declared : String) : Prop :=
  SqlType.ofDeclaredName? declared = none ∧ (SqlType.ofTypeName? declared).isSome = true

instance (declared : String) : Decidable (SqlType.IsUnlisted declared) := inferInstanceAs (Decidable (_ ∧ _))

/-- Without an override, the two places of a declared type tell the same unless it is unlisted. -/
theorem resolveDriver_agree_iff (declared : String) (column : Option String) :
    Agree (resolveDriver .sqlite (.text declared) column none) (resolveDriver .sqlite .null column (some declared)) ↔
      ¬SqlType.IsUnlisted declared := by
  obtain ⟨e, hname⟩ := resolveDriver_name declared column
  rw [resolveDriver_code, hname, SqlType.IsUnlisted]
  cases SqlType.ofDeclaredName? declared with
  | some t => simp [Agree.found t]
  | none =>
    cases SqlType.ofTypeName? declared with
    | none => simp [Agree.unsupported]
    | some t =>
      simp only [Option.isSome_some, and_self, not_true_eq_false, iff_false]
      intro h
      cases h

namespace Session

/-- The overrides can be looked up, and none that counts is set for the column. -/
def NoOverride (env : Environment) (d : Dialect) (table column : Option String) : Prop :=
  ∃ found, lookupIn env d table column = .ok found ∧ found.filter Cell.truth = none

/-- The row in which a database describes a column. -/
def declaration (name declared : String) (position notNull default key : Cell) : Cell :=
  .tuple [position, .text name, .text declared, notNull, default, key]

/-- A table of one column is described if the declared type of the column is resolved as a code. -/
theorem runIn_declaredColumns (table name declared : String) (position notNull default key : Cell) (env : Environment) :
    (∃ c, ((declaredColumns table (.ok [declaration name declared position notNull default key])).runIn env).1 =
        .ok [c]) ↔
      ∃ t, ((resolve Dialect.sqlite.name (.text declared) (some name) (some table) none).runIn env).1 = .ok t := by
  have hrow : declaredParts (declaration name declared position notNull default key) =
      .ok (.text name, .text declared, notNull) := rfl
  have hname : (Cell.text name).asText? = some name := rfl
  simp only [declaredColumns, List.mapM_cons, List.mapM_nil, declaredColumn, hrow, hname, runIn_bind, runIn_ofExcept,
    runIn_pure]
  cases (resolve Dialect.sqlite.name (.text declared) (some name) (some table) none).runIn env with
  | mk outcome env' =>
    cases outcome with
    | error e => simp
    | ok t => simp

/-- Where no override applies, a table is described if table declarations know the declared type. -/
theorem declaredColumns_ok_iff {owner name declared : String} {position notNull default key : Cell} {env : Environment}
    (h : NoOverride env .sqlite (some owner) (some name)) :
    (∃ c, ((declaredColumns owner (.ok [declaration name declared position notNull default key])).runIn env).1 =
        .ok [c]) ↔
      (SqlType.ofDeclaredName? declared).isSome = true := by
  obtain ⟨found, hfound, hnone⟩ := h
  rw [runIn_declaredColumns, runIn_resolve, hfound]
  simp only [resolveFound, hnone, resolveDriver_code]
  cases SqlType.ofDeclaredName? declared with
  | some t => simp
  | none => simp

/-- **A declared type is read alike as the code and as the type name**, unless no override applies and its name is
unlisted. Where no override applies, a table that declares it is described if and only if table declarations know
its name. -/
theorem resolve_declared_agree_iff (env : Environment) (declared : String) (column table : Option String) :
    ((resolve Dialect.sqlite.name (.text declared) column table none).runIn env).2 =
        ((resolve Dialect.sqlite.name .null column table (some declared)).runIn env).2 ∧
    (Agree ((resolve Dialect.sqlite.name (.text declared) column table none).runIn env).1
        ((resolve Dialect.sqlite.name .null column table (some declared)).runIn env).1 ↔
      ¬(NoOverride env .sqlite table column ∧ SqlType.IsUnlisted declared)) ∧
    ∀ (owner name : String) (position notNull default key : Cell), NoOverride env .sqlite (some owner) (some name) →
      ((∃ c, ((declaredColumns owner (.ok [declaration name declared position notNull default key])).runIn env).1 =
          .ok [c]) ↔
        (SqlType.ofDeclaredName? declared).isSome = true) := by
  rw [runIn_resolve, runIn_resolve]
  refine ⟨rfl, ?_, fun owner name position notNull default key => declaredColumns_ok_iff⟩
  cases hlookup : lookupIn env .sqlite table column with
  | error e =>
    have hno : ¬NoOverride env .sqlite table column := by simp [NoOverride, hlookup]
    simp [resolveFound, Agree.refl, hno]
  | ok found =>
    cases hfilter : found.filter Cell.truth with
    | some type =>
      have hno : ¬NoOverride env .sqlite table column := by
        rintro ⟨found', hfound, hnone⟩
        rw [hlookup] at hfound
        cases hfound
        rw [hfilter] at hnone
        cases hnone
      simp [resolveFound, hfilter, Agree.refl, hno]
    | none =>
      have hno : NoOverride env .sqlite table column := ⟨found, hlookup, hfilter⟩
      simp [resolveFound, hfilter, resolveDriver_agree_iff, hno]

/-- A table declaration is described by the name of its type, where no override applies. -/
theorem resolve_declared_agree_flag :
    NoOverride { overrides := some .empty } .sqlite (some "t") (some "flag") ∧
      ((∃ c, ((declaredColumns "t" (.ok [declaration "flag" "boolean(1)" (.int 0) (.int 1) .null (.int 0)])).runIn
          { overrides := some .empty }).1 = .ok [c]) ↔
        (SqlType.ofDeclaredName? "boolean(1)").isSome = true) :=
  have hnone : NoOverride { overrides := some .empty } .sqlite (some "t") (some "flag") := ⟨none, rfl, rfl⟩
  ⟨hnone, (resolve_declared_agree_iff { overrides := some .empty } "boolean(1)" none none).2.2 "t" "flag" (.int 0)
    (.int 1) .null (.int 0) hnone⟩

/-- A declared type can be known as the type name and unknown as the code. -/
theorem not_agree_bool :
    ¬∀ (env : Environment) (declared : String) (column table : Option String),
      Agree ((resolve Dialect.sqlite.name (.text declared) column table none).runIn env).1
        ((resolve Dialect.sqlite.name .null column table (some declared)).runIn env).1 := by
  intro h
  have hagree := h { overrides := some .empty } "BOOL" (some "flag") (some "t")
  have hcode : ((resolve Dialect.sqlite.name (.text "BOOL") (some "flag") (some "t") none).runIn
      { overrides := some .empty }).1 = .error (.unsupported (.driverCode .sqlite (.text "BOOL") (some "flag"))) := rfl
  have hname : ((resolve Dialect.sqlite.name .null (some "flag") (some "t") (some "BOOL")).runIn
      { overrides := some .empty }).1 = .ok .boolean := rfl
  rw [hcode, hname] at hagree
  cases hagree

end Session

end TypedRows
