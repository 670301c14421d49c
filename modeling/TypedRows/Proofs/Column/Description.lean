import TypedRows.Proofs.Cell.LongInteger
import TypedRows.Proofs.Dialect.Resolution
import TypedRows.Proofs.Traversal
/-!
# Columns one by one

The columns of a result are described by one run over the items of the description. Nothing passes from one item to
the next: the run is a traversal by `Session.describeIn` (`Session.runIn_columns`), which looks at one item, its type
name and the look-up of its column. So an override decides about its own column whatever the driver tells, the run
fails with the first column that has no type, and two runs agree on every column that they look up alike.

Main statement: `Session.columns_by_column`.
-/

namespace TypedRows

/-! ## The run over a description -/

theorem describeColumns_eq_mapM (overrides : Overrides) (d : Dialect) (table : Option String)
    (pairs : List (List Cell × Option String)) :
    describeColumns overrides d table pairs =
      pairs.mapM fun p =>
        (resolveWith overrides d (ColumnOf.part p.1 1) (ColumnOf.itemName p.1) table p.2).map
          (ColumnOf.ofItem p.1) := by
  induction pairs with
  | nil => rfl
  | cons p rest ih =>
    rw [describeColumns, List.mapM_cons, ih]
    cases resolveWith overrides d (ColumnOf.part p.1 1) (ColumnOf.itemName p.1) table p.2 <;> rfl

namespace Session

/-- The column that an item describes in an environment, given its type name: nothing but the item, its type name and
the look-up of its column goes into it. -/
def describeIn (env : Environment) (d : Dialect) (table : Option String) (p : List Cell × Option String) :
    Except Error Column :=
  ((resolve d.name (ColumnOf.part p.1 1) (ColumnOf.itemName p.1) table p.2).runIn env).1.map (ColumnOf.ofItem p.1)

theorem describeIn_eq (env : Environment) (d : Dialect) (table : Option String) (p : List Cell × Option String) :
    describeIn env d table p =
      (resolveFound d (ColumnOf.part p.1 1) (ColumnOf.itemName p.1) p.2
        (lookupIn env d table (ColumnOf.itemName p.1))).map (ColumnOf.ofItem p.1) := by
  rw [describeIn, runIn_resolve]

/-- A column is looked up among the overrides that the environment consults. -/
theorem lookupIn_eq (env : Environment) (d : Dialect) (table column : Option String) :
    lookupIn env d table column =
      match (consult.runIn env).1 with
      | .ok overrides => overrides.lookup d.name table column
      | .error e => .error e := by
  have hlookup : (lookup d.name table column).runIn env = _ :=
    runIn_consulting (fun overrides => overrides.lookup d.name table column) env
  rw [lookupIn, hlookup]
  cases consult.runIn env with
  | mk outcome env' => cases outcome <;> rfl

/-- There is one pair for each item, in the order of the items. -/
theorem fst_of_pairNames {items : List (List Cell)} {typeNames : Option (List (Option String))}
    {pairs : List (List Cell × Option String)} (h : pairNames items typeNames = .ok pairs) :
    pairs.map Prod.fst = items := by
  cases typeNames with
  | none =>
    cases h
    simp [Function.comp_def]
  | some names =>
    rw [pairNames] at h
    split at h
    · cases h
    · rename_i hlength
      cases h
      exact List.map_fst_zip (Nat.le_of_eq (Decidable.not_not.1 hlength).symm)

/-- **The columns of a result are described one by one.** -/
theorem runIn_columns {items : List (List Cell)} {typeNames : Option (List (Option String))}
    {pairs : List (List Cell × Option String)} (hpairs : pairNames items typeNames = .ok pairs) (env : Environment)
    (d : Dialect) (table : Option String) :
    ((columns d.name table typeNames (some items)).runIn env).1 = pairs.mapM (describeIn env d table) := by
  simp only [columns, hpairs, runIn_bind, runIn_ofExcept]
  cases pairs with
  | nil => rfl
  | cons p rest =>
    have hrun := runIn_consulting (fun overrides => describeColumns overrides d table (p :: rest)) env
    simp only [List.isEmpty_cons, Bool.false_eq_true, if_false, runIn_bind, runIn_dialect, hrun]
    cases hconsult : consult.runIn env with
    | mk outcome env' =>
      cases outcome with
      | error e =>
        have hfirst : describeIn env d table p = .error e := by
          rw [describeIn_eq, lookupIn_eq, hconsult]
          rfl
        rw [List.mapM_cons, hfirst]
        rfl
      | ok overrides =>
        have hitem : ∀ q : List Cell × Option String, describeIn env d table q =
            (resolveWith overrides d (ColumnOf.part q.1 1) (ColumnOf.itemName q.1) table q.2).map
              (ColumnOf.ofItem q.1) := by
          intro q
          rw [describeIn_eq, lookupIn_eq, hconsult, resolveWith_eq]
        dsimp only
        rw [describeColumns_eq_mapM, funext hitem]

/-! ## Overrides column by column -/

variable {env : Environment} {d : Dialect} {table : Option String} {p : List Cell × Option String}

/-- An override that counts as true decides about its column, whatever the driver tells of it. -/
theorem describeIn_overridden {v : Cell} (hfound : lookupIn env d table (ColumnOf.itemName p.1) = .ok (some v))
    (htrue : v.truth = true) :
    describeIn env d table p =
      (SqlType.coerce v (ColumnOf.itemName p.1)).map (ColumnOf.ofItem p.1) := by
  have hfilter : (some v).filter Cell.truth = some v := by simp [htrue]
  simp only [describeIn_eq, hfound, resolveFound, hfilter]

/-- An unknown override is refused by the name of its column, unless it shows an integer too long to be written: then
it is the message of the refusal that fails. -/
theorem describeIn_unknown {v : Cell} (hfound : lookupIn env d table (ColumnOf.itemName p.1) = .ok (some v))
    (htrue : v.truth = true) (hunknown : SqlType.ofCell? v = none) :
    describeIn env d table p =
      .error (if v.showsLongInteger then .value .longInteger
        else .unsupported (.typeName v (ColumnOf.itemName p.1))) := by
  rw [describeIn_overridden hfound htrue]
  simp only [SqlType.coerce, hunknown, Cell.refuse]
  cases v.showsLongInteger with
  | true => rfl
  | false => rfl

/-- Without overrides nothing is found. -/
theorem lookupIn_empty (column : Option String) :
    lookupIn { env with overrides := some .empty } d table column = .ok none := by
  rw [lookupIn_eq, runIn_consult_of_some rfl]
  rfl

/-- A column that has no override is described as if there were no overrides at all. -/
theorem describeIn_plain (hfound : lookupIn env d table (ColumnOf.itemName p.1) = .ok none) :
    describeIn env d table p = describeIn { env with overrides := some .empty } d table p := by
  rw [describeIn_eq, describeIn_eq, hfound, lookupIn_empty]

/-- A column is looked up alike in two runs: to the same outcome, and for the same dialect unless an override decides
about it. -/
def LookedUpAlike (env : Environment) (d : Dialect) (table : Option String) (env' : Environment) (d' : Dialect)
    (table' column : Option String) : Prop :=
  lookupIn env d table column = lookupIn env' d' table' column ∧
    (d = d' ∨ ∃ v, lookupIn env d table column = .ok (some v) ∧ v.truth = true)

theorem describeIn_congr {env' : Environment} {d' : Dialect} {table' : Option String}
    (h : LookedUpAlike env d table env' d' table' (ColumnOf.itemName p.1)) :
    describeIn env d table p = describeIn env' d' table' p := by
  obtain ⟨hsame, rfl | ⟨v, hfound, htrue⟩⟩ := h
  · rw [describeIn_eq, describeIn_eq, hsame]
  · rw [describeIn_overridden hfound htrue, describeIn_overridden (hsame ▸ hfound) htrue]

/-- What the description of a result comes to, column by column. -/
structure ByColumn (env : Environment) (d : Dialect) (table : Option String) (pairs : List (List Cell × Option String))
    (outcome : Except Error (List Column)) : Prop where
  /-- A column with an override has the type that the override means, whatever the driver tells of it. -/
  overridden : ∀ p ∈ pairs, ∀ v : Cell,
    lookupIn env d table (ColumnOf.itemName p.1) = .ok (some v) → v.truth = true →
      describeIn env d table p = (SqlType.coerce v (ColumnOf.itemName p.1)).map (ColumnOf.ofItem p.1)
  /-- An override that means no type is refused by the name of its column, unless it shows an integer too long to be
  written, for which the message of the refusal cannot be made. -/
  unknown : ∀ p ∈ pairs, ∀ v : Cell,
    lookupIn env d table (ColumnOf.itemName p.1) = .ok (some v) → v.truth = true → SqlType.ofCell? v = none →
      describeIn env d table p =
        .error (if v.showsLongInteger then .value .longInteger
          else .unsupported (.typeName v (ColumnOf.itemName p.1)))
  /-- A column without an override is described as if there were none for any column. -/
  plain : ∀ p ∈ pairs, lookupIn env d table (ColumnOf.itemName p.1) = .ok none →
    describeIn env d table p = describeIn { env with overrides := some .empty } d table p
  /-- The description succeeds if and only if that of every column does. -/
  succeeds : (∃ columns, outcome = .ok columns) ↔ ∀ p ∈ pairs, ∃ column, describeIn env d table p = .ok column
  /-- It fails as the first column that fails. -/
  fails : ∀ e : Error, outcome = .error e ↔
    ∃ before p after, pairs = before ++ p :: after ∧
      (∀ q ∈ before, ∃ column, describeIn env d table q = .ok column) ∧ describeIn env d table p = .error e
  /-- It gives one column for each pair, in the order of the pairs. -/
  gives : ∀ columns : List Column, outcome = .ok columns ↔
    pairs.map (describeIn env d table) = columns.map .ok

/-- **Overrides dominate, column by column.** In two runs that succeed, an item with its type name that is looked up
alike is the same column, whatever stands beside it. -/
theorem columns_by_column {items : List (List Cell)} {typeNames : Option (List (Option String))}
    {pairs : List (List Cell × Option String)} (hpairs : pairNames items typeNames = .ok pairs) (env : Environment)
    (d : Dialect) (table : Option String) :
    pairs.map Prod.fst = items ∧
    ByColumn env d table pairs ((columns d.name table typeNames (some items)).runIn env).1 ∧
    ∀ (env' : Environment) (d' : Dialect) (table' : Option String) (items' : List (List Cell))
      (typeNames' : Option (List (Option String))) (pairs' : List (List Cell × Option String)) (found found' : List Column),
      pairNames items' typeNames' = .ok pairs' →
      ((columns d.name table typeNames (some items)).runIn env).1 = .ok found →
      ((columns d'.name table' typeNames' (some items')).runIn env').1 = .ok found' →
      ∀ (i j : Nat) (p : List Cell × Option String), pairs[i]? = some p → pairs'[j]? = some p →
        LookedUpAlike env d table env' d' table' (ColumnOf.itemName p.1) →
        ∃ column, found[i]? = some column ∧ found'[j]? = some column := by
  rw [runIn_columns hpairs]
  refine ⟨fst_of_pairNames hpairs, ?_, ?_⟩
  · exact {
      overridden := fun p _ v hfound htrue => describeIn_overridden hfound htrue
      unknown := fun p _ v hfound htrue hunknown => describeIn_unknown hfound htrue hunknown
      plain := fun p _ hfound => describeIn_plain hfound
      succeeds := exists_mapM_ok_iff
      fails := fun e => mapM_error_iff
      gives := fun columns => mapM_ok_iff }
  · intro env' d' table' items' typeNames' pairs' found found' hpairs' hrun hrun' i j p hi hj halike
    rw [runIn_columns hpairs'] at hrun'
    obtain ⟨column, hcolumn, hfound⟩ := exists_getElem?_of_mapM hrun hi
    obtain ⟨column', hcolumn', hfound'⟩ := exists_getElem?_of_mapM hrun' hj
    -- The item is described alike in both runs, so the two columns are one.
    cases hfound.symm.trans ((describeIn_congr halike).trans hfound')
    exact ⟨column, hcolumn, hcolumn'⟩

/-- A flag that an override declares is the same column beside another and alone. -/
theorem columns_by_column_flag :
    let env : Environment := { overrides := some (Overrides.addColumn .empty "sqlite" none "flag" (.text "BOOLEAN")) }
    let flag : List Cell := [.text "flag", .text "no type"]
    let size : List Cell := [.text "size", .null]
    ∃ column found found',
      ((columns "sqlite" (some "t") (some [none, some "INT"]) (some [flag, size])).runIn env).1 = .ok found ∧
      ((columns "sqlite" none none (some [flag])).runIn env).1 = .ok found' ∧
      found[0]? = some column ∧ found'[0]? = some column := by
  intro env flag size
  have hlookup : lookupIn env .sqlite (some "t") (some "flag") = .ok (some (.text "BOOLEAN")) := rfl
  have hlookup' : lookupIn env .sqlite none (some "flag") = .ok (some (.text "BOOLEAN")) := rfl
  have hpairs : pairNames [flag, size] (some [none, some "INT"]) = .ok [(flag, none), (size, some "INT")] := rfl
  obtain ⟨column, h, h'⟩ := (columns_by_column hpairs env .sqlite (some "t")).2.2 env .sqlite none [flag] none _ _ _
    rfl rfl rfl 0 0 (flag, none) rfl rfl ⟨hlookup.trans hlookup'.symm, .inl rfl⟩
  exact ⟨column, _, _, rfl, rfl, h, h'⟩

theorem ofCell?_longInteger : SqlType.ofCell? (.int longInteger) = none := by
  refine List.find?_eq_none.2 fun t _ hcode => ?_
  have hsmall : t.code.natAbs < 10 ^ 20 := by cases t <;> decide
  rw [eq_of_beq hcode] at hsmall
  exact absurd le_natAbs_longInteger (Nat.not_le.2 hsmall)

/-- An override that means no type and is too long to be written is refused, and not as an unsupported type of its
column. -/
theorem columns_longInteger_ne :
    let env : Environment := { overrides := some (Overrides.addColumn .empty "sqlite" none "flag" (.int longInteger)) }
    lookupIn env .sqlite none (some "flag") = .ok (some (.int longInteger)) ∧
      SqlType.ofCell? (.int longInteger) = none ∧
      ((columns "sqlite" none none (some [[.text "flag", .null]])).runIn env).1 = .error (.value .longInteger) ∧
      ∀ e, ((columns "sqlite" none none (some [[.text "flag", .null]])).runIn env).1 ≠ .error (.unsupported e) := by
  intro env
  have hlookup : lookupIn env .sqlite none (some "flag") = .ok (some (.int longInteger)) := rfl
  have htrue : (Cell.int longInteger).truth = true := by
    have hlarge := le_natAbs_longInteger
    simp only [Cell.truth, bne_iff_ne]
    omega
  have hdescribe := describeIn_unknown (p := ([.text "flag", .null], none)) hlookup htrue ofCell?_longInteger
  rw [show (Cell.int longInteger).showsLongInteger = true from isLongInteger_longInteger, if_pos rfl] at hdescribe
  have hpairs : pairNames [[.text "flag", .null]] none = .ok [([.text "flag", .null], none)] := rfl
  have houtcome : ((columns "sqlite" none none (some [[.text "flag", .null]])).runIn env).1 =
      .error (.value .longInteger) := by
    refine (runIn_columns hpairs env .sqlite none).trans ?_
    rw [List.mapM_cons, hdescribe]
    rfl
  exact ⟨hlookup, ofCell?_longInteger, houtcome, fun e h => by cases houtcome.symm.trans h⟩

end Session

end TypedRows
