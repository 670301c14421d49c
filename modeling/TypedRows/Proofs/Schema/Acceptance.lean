import TypedRows.Proofs.Schema.Inference
/-!
# Columns that have a schema

The schema of columns is inferred in two passes. First each column makes a field, unless its type has no kind or it has
no name (`ColumnOf.Fault`). Then the names must differ. So the inference fails with the first column that makes no
field, and only if every column makes one, with the first name that repeats an earlier one (`RepeatsFirst`).

The names of a schema differ, so that each has one position, at which it is found (`Schema.index_eq_ok_iff`).

Main statement: `Schema.ofColumns_outcome`, for every list of columns.
-/

namespace TypedRows

/-! ## Names that repeat earlier ones -/

/-- The item repeats an earlier one, and none of the items before it does. -/
def RepeatsFirst {α : Type} (items : List α) (item : α) : Prop :=
  ∃ before after, items = before ++ item :: after ∧ before.Nodup ∧ item ∈ before

theorem RepeatsFirst.not_nodup {α : Type} {items : List α} {item : α} (h : RepeatsFirst items item) :
    ¬items.Nodup := by
  obtain ⟨before, after, rfl, -, hmem⟩ := h
  intro hnodup
  exact (List.nodup_append.1 hnodup).2.2 item hmem item List.mem_cons_self rfl

theorem repeatsFirst_map_iff {α β : Type} {f : α → β} (hf : f.Injective) {items : List α} {item : α} :
    RepeatsFirst (items.map f) (f item) ↔ RepeatsFirst items item := by
  constructor
  · rintro ⟨before, after, hsplit, hnodup, hmem⟩
    obtain ⟨front, back, rfl, rfl, hback⟩ := List.map_eq_append_iff.1 hsplit
    obtain ⟨same, rest, rfl, hsame, -⟩ := List.map_eq_cons_iff.1 hback
    obtain rfl := hf hsame
    exact ⟨front, rest, rfl, (List.nodup_map_iff hf).1 hnodup, (List.mem_map_of_injective hf).1 hmem⟩
  · rintro ⟨before, after, rfl, hnodup, hmem⟩
    exact ⟨before.map f, after.map f, by simp, hnodup.map hf, List.mem_map_of_mem hmem⟩

theorem firstRepeated?_eq_some_iff {seen names : List String} {name : String} :
    firstRepeated? seen names = some name ↔
      ∃ before after, names = before ++ name :: after ∧ before.Nodup ∧ (∀ other ∈ before, other ∉ seen) ∧
        (name ∈ seen ∨ name ∈ before) := by
  induction names generalizing seen with
  | nil => simp [firstRepeated?]
  | cons first rest ih =>
    rw [firstRepeated?]
    by_cases hseen : first ∈ seen
    · rw [if_pos hseen, Option.some.injEq]
      constructor
      · rintro rfl
        exact ⟨[], rest, rfl, List.nodup_nil, by simp, .inl hseen⟩
      · rintro ⟨before, after, hsplit, -, hfresh, -⟩
        cases before with
        | nil => exact (List.cons.inj hsplit).1
        | cons b before =>
          obtain ⟨rfl, -⟩ := List.cons.inj hsplit
          exact absurd hseen (hfresh first List.mem_cons_self)
    · -- The first name joins those that were seen; it is then the first of the names before a repetition.
      rw [if_neg hseen, ih]
      constructor
      · rintro ⟨before, after, rfl, hnodup, hfresh, hmem⟩
        refine ⟨first :: before, after, rfl, ?_, ?_, ?_⟩
        · refine List.nodup_cons.2 ⟨?_, hnodup⟩
          intro hbefore
          exact hfresh first hbefore List.mem_cons_self
        · intro other hother
          rcases List.mem_cons.1 hother with rfl | hother
          · exact hseen
          · exact fun h => hfresh other hother (List.mem_cons_of_mem _ h)
        · rcases hmem with hmem | hmem
          · rcases List.mem_cons.1 hmem with rfl | hmem
            · exact .inr List.mem_cons_self
            · exact .inl hmem
          · exact .inr (List.mem_cons_of_mem _ hmem)
      · rintro ⟨before, after, hsplit, hnodup, hfresh, hmem⟩
        cases before with
        | nil =>
          obtain ⟨rfl, -⟩ := List.cons.inj hsplit
          simp [hseen] at hmem
        | cons b before =>
          obtain ⟨rfl, rfl⟩ := List.cons.inj hsplit
          obtain ⟨hb, hnodup⟩ := List.nodup_cons.1 hnodup
          refine ⟨before, after, rfl, hnodup, ?_, ?_⟩
          · intro other hother h
            rcases List.mem_cons.1 h with rfl | h
            · exact hb hother
            · exact hfresh other (List.mem_cons_of_mem _ hother) h
          · rcases hmem with hmem | hmem
            · exact .inl (List.mem_cons_of_mem _ hmem)
            · rcases List.mem_cons.1 hmem with rfl | hmem
              · exact .inl List.mem_cons_self
              · exact .inr hmem

/-- Among all names, the first that is repeated repeats an earlier one. -/
theorem firstRepeated?_nil_eq_some_iff {names : List String} {name : String} :
    firstRepeated? [] names = some name ↔ RepeatsFirst names name := by
  rw [firstRepeated?_eq_some_iff, RepeatsFirst]
  simp

/-- Names that differ are not refused. -/
theorem firstRepeated?_eq_none_iff {names : List String} : firstRepeated? [] names = none ↔ names.Nodup := by
  constructor
  · intro h
    exact (nodup_of_firstRepeated? h).1
  · intro hnodup
    cases h : firstRepeated? [] names with
    | none => rfl
    | some name => exact absurd hnodup (firstRepeated?_nil_eq_some_iff.1 h).not_nodup

/-! ## Schemas and positions -/

namespace Schema

theorem ofFields_eq_ok_iff {name : String} {fields : List Field} {s : Schema} :
    ofFields name fields = .ok s ↔ s.name = name ∧ s.fields = fields := by
  unfold ofFields
  split
  · rename_i repeated hrepeated
    constructor
    · intro h
      cases h
    · rintro ⟨-, rfl⟩
      exact absurd s.nodup (firstRepeated?_nil_eq_some_iff.1 hrepeated).not_nodup
  · rw [Except.ok.injEq]
    constructor
    · rintro rfl
      exact ⟨rfl, rfl⟩
    · rintro ⟨rfl, rfl⟩
      rfl

theorem ofFields_eq_error_iff {name : String} {fields : List Field} {e : Error} :
    ofFields name fields = .error e ↔
      ∃ repeated, RepeatsFirst (fields.map Field.name) repeated ∧ e = .mismatch (.repeatedField repeated name) := by
  unfold ofFields
  split
  · rename_i repeated hrepeated
    rw [failMismatch, Except.error.injEq]
    constructor
    · rintro rfl
      exact ⟨repeated, firstRepeated?_nil_eq_some_iff.1 hrepeated, rfl⟩
    · rintro ⟨other, hother, rfl⟩
      rw [← firstRepeated?_nil_eq_some_iff, hrepeated, Option.some.injEq] at hother
      rw [hother]
  · rename_i hnone
    constructor
    · intro h
      cases h
    · rintro ⟨repeated, hrepeated, -⟩
      exact absurd (firstRepeated?_eq_none_iff.1 hnone) hrepeated.not_nodup

/-- **A name is found at the position of its field**, which is the only one with that name. -/
theorem index_eq_ok_iff {s : Schema} {name : String} {i : Nat} :
    s.index name = .ok i ↔ ∃ f, s.fields[i]? = some f ∧ f.name = name := by
  have hindex : s.index name = .ok i ↔ s.index? name = some i := by
    unfold index
    cases s.index? name <;> simp [failMismatch]
  rw [hindex, index?, List.findIdx?_eq_some_iff_getElem]
  constructor
  · rintro ⟨hi, hname, -⟩
    exact ⟨s.fields[i], List.getElem?_eq_getElem hi, eq_of_beq hname⟩
  · rintro ⟨f, hf, rfl⟩
    obtain ⟨hi, rfl⟩ := List.getElem?_eq_some_iff.1 hf
    refine ⟨hi, beq_self_eq_true _, ?_⟩
    intro j hj hsame
    have hnames : (s.fields.map Field.name)[i]? = (s.fields.map Field.name)[j]? := by
      rw [List.getElem?_map, List.getElem?_map, List.getElem?_eq_getElem hi, List.getElem?_eq_getElem (hj.trans hi)]
      exact congrArg some (eq_of_beq hsame).symm
    have hij : i = j := (List.getElem?_inj (by simpa using hi) s.nodup).1 hnames
    omega

theorem index_eq_error_iff {s : Schema} {name : String} {e : Error} :
    s.index name = .error e ↔ name ∉ s.names ∧ e = .mismatch (.noSuchField name s.name) := by
  have hnone : s.index? name = none ↔ name ∉ s.names := by
    simp [index?, names]
  rw [← hnone]
  unfold index
  cases s.index? name <;> simp [failMismatch, eq_comm]

end Schema

/-! ## Fields of columns -/

/-- The field is that of the column. It may be null exactly if the column may hold nulls or all its values are null. -/
structure Field.Mirrors (f : Field) (c : Column) : Prop extends f.IsOf c where
  nullable_iff : f.nullable = true ↔ c.isNullable = true ∨ f.kind = .null

/-- The type of the column has a kind, and the column has a name. -/
def ColumnOf.IsUsable (c : Column) : Prop :=
  (∃ kind, Kind.ofSqlType? c.sqlType = some kind) ∧ ∃ text, c.name = some text ∧ text ≠ ""

/-- The failure with a column that is not usable. That its type has no kind is found before that it has no name. -/
inductive ColumnOf.Fault (c : Column) : Error → Prop
  | unsupported : Kind.ofSqlType? c.sqlType = none → Fault c (.unsupported (.sqlType c.sqlType c.name))
  | unnamed (kind : Kind) : Kind.ofSqlType? c.sqlType = some kind → c.name.getD "" = "" →
      Fault c (.mismatch .emptyFieldName)

namespace Field

variable {c : Column} {f : Field}

theorem Mirrors.unique {g : Field} (hf : f.Mirrors c) (hg : g.Mirrors c) : f = g := by
  have hname : f.name = g.name := Option.some.inj (hf.name.symm.trans hg.name)
  have hkind : f.kind = g.kind := Option.some.inj (hf.kind.symm.trans hg.kind)
  have hnullable : f.nullable = g.nullable := by
    rw [Bool.eq_iff_iff, hf.nullable_iff, hg.nullable_iff, hkind]
  cases f
  cases g
  simp_all

theorem Mirrors.isUsable (h : f.Mirrors c) : c.IsUsable :=
  ⟨⟨f.kind, h.kind⟩, f.name, h.name, f.name_ne_empty⟩

/-- A usable column has a field. -/
theorem exists_ofColumn_of_isUsable (h : c.IsUsable) : ∃ f, ofColumn c = .ok f ∧ f.Mirrors c := by
  obtain ⟨⟨kind, hkind⟩, text, htext, hne⟩ := h
  refine ⟨⟨text, kind, c.isNullable || kind == .null, hne, by rintro rfl; simp⟩, ?_, ⟨htext, hkind, ?_⟩, ?_⟩
  · simp [ofColumn, Kind.ofSqlType, hkind, htext, ofParts, ofParts?, hne, bind, Except.bind]
  · intro hnull
    simp [hnull]
  · simp

theorem ofColumn_of_fault {e : Error} (h : c.Fault e) : ofColumn c = .error e := by
  cases h with
  | unsupported hkind => simp [ofColumn, Kind.ofSqlType, hkind, bind, Except.bind]
  | unnamed kind hkind hname =>
    simp [ofColumn, Kind.ofSqlType, hkind, hname, ofParts, ofParts?, failMismatch, bind, Except.bind]

/-- A column is usable or has a fault. -/
theorem isUsable_or_fault (c : Column) : c.IsUsable ∨ ∃ e, c.Fault e := by
  cases hkind : Kind.ofSqlType? c.sqlType with
  | none => exact .inr ⟨_, .unsupported hkind⟩
  | some kind =>
    by_cases hname : c.name.getD "" = ""
    · exact .inr ⟨_, .unnamed kind hkind hname⟩
    · cases htext : c.name with
      | none => simp [htext] at hname
      | some text => exact .inl ⟨⟨kind, hkind⟩, text, htext, by simpa [htext] using hname⟩

theorem ofColumn_eq_ok_iff : ofColumn c = .ok f ↔ f.Mirrors c := by
  constructor
  · intro h
    rcases isUsable_or_fault c with husable | ⟨e, hfault⟩
    · obtain ⟨g, hg, hmirrors⟩ := exists_ofColumn_of_isUsable husable
      rw [hg, Except.ok.injEq] at h
      exact h ▸ hmirrors
    · rw [ofColumn_of_fault hfault] at h
      cases h
  · intro h
    obtain ⟨g, hg, hmirrors⟩ := exists_ofColumn_of_isUsable h.isUsable
    rw [hg, hmirrors.unique h]

theorem ofColumn_eq_error_iff {e : Error} : ofColumn c = .error e ↔ c.Fault e := by
  constructor
  · intro h
    rcases isUsable_or_fault c with husable | ⟨e', hfault⟩
    · obtain ⟨g, hg, -⟩ := exists_ofColumn_of_isUsable husable
      rw [hg] at h
      cases h
    · rw [ofColumn_of_fault hfault, Except.error.injEq] at h
      exact h ▸ hfault
  · exact ofColumn_of_fault

theorem exists_ofColumn_iff : (∃ f, ofColumn c = .ok f) ↔ c.IsUsable := by
  constructor
  · rintro ⟨f, h⟩
    exact (ofColumn_eq_ok_iff.1 h).isUsable
  · intro h
    obtain ⟨f, hf, -⟩ := exists_ofColumn_of_isUsable h
    exact ⟨f, hf⟩

/-- Fields that mirror columns have their names. -/
theorem map_name_of_mirrors {columns : List Column} {fields : List Field}
    (h : List.Forall₂ (fun c f => f.Mirrors c) columns fields) :
    columns.map ColumnOf.name = (fields.map Field.name).map some := by
  induction h with
  | nil => rfl
  | cons hf _ ih => rw [List.map_cons, List.map_cons, List.map_cons, ih, hf.name]

end Field

/-- The fields of columns mirror them. -/
theorem mapM_ofColumn_eq_ok_iff {columns : List Column} {fields : List Field} :
    columns.mapM Field.ofColumn = .ok fields ↔ List.Forall₂ (fun c f => f.Mirrors c) columns fields := by
  simp only [mapM_ok_iff_forall₂, Field.ofColumn_eq_ok_iff]

theorem exists_mapM_ofColumn_iff {columns : List Column} :
    (∃ fields, columns.mapM Field.ofColumn = .ok fields) ↔ ∀ c ∈ columns, c.IsUsable := by
  simp only [exists_mapM_ok_iff, Field.exists_ofColumn_iff]

/-- The first column that is not usable stops the making of fields. -/
theorem mapM_ofColumn_eq_error_iff {columns : List Column} {e : Error} :
    columns.mapM Field.ofColumn = .error e ↔
      ∃ before c after, columns = before ++ c :: after ∧ (∀ b ∈ before, b.IsUsable) ∧ c.Fault e := by
  simp only [mapM_error_iff, Field.exists_ofColumn_iff, Field.ofColumn_eq_error_iff]

/-! ## Schemas of columns -/

namespace Schema

variable {name : String} {columns : List Column}

theorem ofColumns_eq_ok_iff {s : Schema} :
    ofColumns name columns = .ok s ↔
      s.name = name ∧ List.Forall₂ (fun c f => f.Mirrors c) columns s.fields := by
  unfold ofColumns
  cases hfields : columns.mapM Field.ofColumn with
  | error e =>
    rw [← mapM_ofColumn_eq_ok_iff, hfields]
    simp [bind, Except.bind]
  | ok fields =>
    rw [← mapM_ofColumn_eq_ok_iff, hfields, Except.ok.injEq, @eq_comm _ fields]
    exact ofFields_eq_ok_iff

/-- The schema is refused for the first column that is not usable, and only if all are, for a name that repeats. -/
theorem ofColumns_eq_error_iff {e : Error} :
    ofColumns name columns = .error e ↔
      (∃ before c after, columns = before ++ c :: after ∧ (∀ b ∈ before, b.IsUsable) ∧ c.Fault e) ∨
        (∀ c ∈ columns, c.IsUsable) ∧
          ∃ repeated, RepeatsFirst (columns.map ColumnOf.name) (some repeated) ∧
            e = .mismatch (.repeatedField repeated name) := by
  rw [← mapM_ofColumn_eq_error_iff, ← exists_mapM_ofColumn_iff]
  unfold ofColumns
  cases hfields : columns.mapM Field.ofColumn with
  | error e' => simp [bind, Except.bind]
  | ok fields =>
    have hnames := Field.map_name_of_mirrors (mapM_ofColumn_eq_ok_iff.1 hfields)
    simp only [hnames, repeatsFirst_map_iff (Option.some_injective String)]
    simpa [bind, Except.bind] using ofFields_eq_error_iff

theorem exists_ofColumns_iff :
    (∃ s, ofColumns name columns = .ok s) ↔
      (∀ c ∈ columns, c.IsUsable) ∧ (columns.map ColumnOf.name).Nodup := by
  rw [← exists_mapM_ofColumn_iff]
  constructor
  · rintro ⟨s, hs⟩
    obtain ⟨-, hmirrors⟩ := ofColumns_eq_ok_iff.1 hs
    refine ⟨⟨s.fields, mapM_ofColumn_eq_ok_iff.2 hmirrors⟩, ?_⟩
    rw [Field.map_name_of_mirrors hmirrors]
    exact s.nodup.map (Option.some_injective String)
  · rintro ⟨⟨fields, hfields⟩, hnodup⟩
    have hmirrors := mapM_ofColumn_eq_ok_iff.1 hfields
    rw [Field.map_name_of_mirrors hmirrors] at hnodup
    exact ⟨⟨name, fields, List.Nodup.of_map some hnodup⟩, ofColumns_eq_ok_iff.2 ⟨rfl, hmirrors⟩⟩

/-- **The outcome of inferring a schema.** There is one exactly if every column is usable and the names differ. It has
one field for each column, which mirrors it; its names, and no others, are found at their positions; and the columns
are column types for it. Otherwise the failure is that of the first column that is not usable, and only if all are, it
names the first name that repeats an earlier one. -/
theorem ofColumns_outcome (name : String) (columns : List Column) :
    ((∃ s, ofColumns name columns = .ok s) ↔
        (∀ c ∈ columns, c.IsUsable) ∧ (columns.map ColumnOf.name).Nodup) ∧
      (∀ s, ofColumns name columns = .ok s ↔
        s.name = name ∧ List.Forall₂ (fun c f => f.Mirrors c) columns s.fields) ∧
      (∀ s, ofColumns name columns = .ok s →
        (∀ field i, s.index field = .ok i ↔ ∃ f, s.fields[i]? = some f ∧ f.name = field) ∧
        (∀ field e, s.index field = .error e ↔ field ∉ s.names ∧ e = .mismatch (.noSuchField field name)) ∧
        (ColumnTypes.ofColumns columns).validate s = .ok ()) ∧
      ∀ e, ofColumns name columns = .error e ↔
        (∃ before c after, columns = before ++ c :: after ∧ (∀ b ∈ before, b.IsUsable) ∧ c.Fault e) ∨
          (∀ c ∈ columns, c.IsUsable) ∧
            ∃ repeated, RepeatsFirst (columns.map ColumnOf.name) (some repeated) ∧
              e = .mismatch (.repeatedField repeated name) := by
  refine ⟨exists_ofColumns_iff, fun s => ofColumns_eq_ok_iff, ?_, fun e => ofColumns_eq_error_iff⟩
  intro s hs
  obtain ⟨hname, hmirrors⟩ := ofColumns_eq_ok_iff.1 hs
  refine ⟨fun field i => index_eq_ok_iff, fun field e => hname ▸ index_eq_error_iff, ?_⟩
  rw [ColumnTypes.validate_eq_ok_iff, names, ← Field.map_name_of_mirrors hmirrors, ColumnTypes.names_ofColumns]

end Schema

end TypedRows
