import TypedRows.Proofs.Number.Rounding
import TypedRows.Proofs.Record.RoundTrip
import TypedRows.Proofs.Text.Lines
/-!
# Copying records

A copy writes a record to a new statement and reads the parameters back. The first copy makes projections of the
values (`Kind.returned`), and every projection but one is idempotent: rounding to single precision, the day of a
count and what it has beyond its day do not change a second time. The lines of a large text are the exception,
for a second copy drops one more line feed from a text that still ends in one (`Kind.returned_returned`).

Main statement: `Record.copy_copy`. A copy of a copy never fails. It is the first copy again exactly if no large
text of the record ends in an empty line, and then any number of copies changes nothing.
-/

namespace TypedRows

/-- The record that is read after the record was written to a new statement. -/
def Record.copy (r : Record) (t : ColumnTypes) (sql : String) (dialect : Option String) : Except Error Record :=
  match (Statement.ofSql sql r.schema.size dialect).write r r.schema (.table t) with
  | (_, .error e) => .error e
  | (s, .ok ()) => do
    let parameters ← s.parameters
    (Record.ofRow r.schema (some (.table t)) (.tuple parameters)).outcome

/-- A column of large texts, of which reading joins the lines. -/
def SqlType.IsLargeText (type : SqlType) : Prop := type = .clob ∨ type = .nclob

instance (type : SqlType) : Decidable type.IsLargeText := inferInstanceAs (Decidable (_ ∨ _))

/-- What a copy changes in a value that was copied before: a large text loses a line feed at its end. -/
def SqlType.withoutBreak (type : SqlType) (value : Cell) : Cell :=
  match value with
  | .text s => if type.IsLargeText then .text (String.ofList (Text.dropLastBreak s.toList)) else .text s
  | value => value

/-- A large text of the record ends in an empty line. -/
def Record.HasEmptyLine (r : Record) (t : ColumnTypes) : Prop :=
  ∃ c ∈ r.columns t, c.2.1.IsLargeText ∧ ∃ s, c.2.2 = .text s ∧ Text.EndsInEmptyLine s

/-! ## Projections of projections -/

section Columns

variable {kind : Kind} {type : SqlType} {value : Cell}

theorem not_isLargeText (hkind : Kind.ofSqlType? type = some kind) (h : kind ≠ .string) : ¬type.IsLargeText := by
  rintro (rfl | rfl) <;> exact h (Option.some.inj hkind).symm

theorem withoutBreak_of_not_isLargeText (h : ¬type.IsLargeText) : type.withoutBreak value = value := by
  unfold SqlType.withoutBreak
  split
  · rw [if_neg h]
  · rfl

theorem keptMillis_keptMillis (i : Int) : type.keptMillis (type.keptMillis i) = type.keptMillis i := by
  cases type with
  | date | time =>
    simp only [SqlType.keptMillis, millisPerDay]
    omega
  | _ => rfl

/-- A value that is no integer comes back as it is from a field of integers. -/
theorem returned_of_asInt?_none (hkind : kind = .int32 ∨ kind = .int64) (h : value.asInt? = none) :
    kind.returned type value = value := by
  rcases hkind with rfl | rfl <;> simp [Kind.returned, h]

/-- **A projection of a projection** is the projection itself, up to a line feed at the end of a large text. -/
theorem Kind.returned_returned (hkind : Kind.ofSqlType? type = some kind) :
    kind.returned type (kind.returned type value) = type.withoutBreak (kind.returned type value) := by
  by_cases hstring : kind = .string
  · subst hstring
    cases value with
    | text s =>
      by_cases hlarge : type.IsLargeText
      · have hjoin := Text.joinLines_of_not_mem (Text.not_mem_joinLines s)
        have hlob : type = .clob ∨ type = .nclob := hlarge
        simp only [Kind.returned, hlob, ↓reduceIte, SqlType.withoutBreak, hlarge, hjoin]
      · have hlob : ¬(type = .clob ∨ type = .nclob) := hlarge
        simp only [Kind.returned, hlob, ↓reduceIte, withoutBreak_of_not_isLargeText hlarge]
    | _ => rfl
  · rw [withoutBreak_of_not_isLargeText (not_isLargeText hkind hstring)]
    cases kind with
    | string => exact absurd rfl hstring
    | int32 =>
      cases h : value.asInt? with
      | none => rw [returned_of_asInt?_none (Or.inl rfl) h, returned_of_asInt?_none (Or.inl rfl) h]
      | some i => rw [returned_int32 h, returned_int32 rfl]
    | int64 =>
      cases h : value.asInt? with
      | none => rw [returned_of_asInt?_none (Or.inr rfl) h, returned_of_asInt?_none (Or.inr rfl) h]
      | some i => rw [returned_int64 h, returned_int64 rfl, keptMillis_keptMillis]
    | float32 => cases value <;> simp [Kind.returned, Double.narrow_narrow]
    | _ => rfl

/-- Exactly the large texts that end in an empty line change a second time. -/
theorem withoutBreak_returned_eq_iff (hkind : Kind.ofSqlType? type = some kind) :
    type.withoutBreak (kind.returned type value) = kind.returned type value ↔
      ¬(type.IsLargeText ∧ ∃ s, value = .text s ∧ Text.EndsInEmptyLine s) := by
  by_cases hlarge : type.IsLargeText
  · have hstring : kind = .string := by
      rcases hlarge with rfl | rfl <;> exact (Option.some.inj hkind).symm
    subst hstring
    cases value with
    | text s =>
      have hlob : type = .clob ∨ type = .nclob := hlarge
      have hjoin := @Text.joinLines_joinLines_eq_iff s
      rw [Text.joinLines_of_not_mem (Text.not_mem_joinLines s)] at hjoin
      simpa [Kind.returned, hlob, SqlType.withoutBreak, hlarge] using hjoin
    | _ => simp [Kind.returned, SqlType.withoutBreak]
  · simp [withoutBreak_of_not_isLargeText hlarge, hlarge]

/-- A projection stays in the range in which its value was. -/
theorem Kind.rangeFault?_returned (h : kind.rangeFault? type value = none) :
    kind.rangeFault? type (kind.returned type value) = none := by
  cases kind with
  | int32 =>
    cases hi : value.asInt? with
    | none => rwa [returned_of_asInt?_none (Or.inl rfl) hi]
    | some i =>
      rw [returned_int32 hi, Kind.rangeFault?_eq_none_iff]
      refine ⟨fun _ j range hj hr => ?_, fun h => nomatch h⟩
      cases hj
      exact (Kind.rangeFault?_eq_none_iff.1 h).1 rfl i range hi hr
  | int64 =>
    cases hi : value.asInt? with
    | none => rwa [returned_of_asInt?_none (Or.inr rfl) hi]
    | some i =>
      rw [returned_int64 hi, Kind.rangeFault?_eq_none_iff]
      refine ⟨(fun h => nomatch h), fun _ j hj ht => ?_⟩
      cases hj
      exact keptMillis_mem (instant_mem_of_rangeFault? h hi ht)
  | _ => rfl

end Columns

/-! ## Copies of whole records -/

theorem isScalar_of_ofSqlType? {kind : Kind} {type : SqlType} (h : Kind.ofSqlType? type = some kind) :
    kind.isScalar = true := by
  cases type <;> simp only [Kind.ofSqlType?, Option.some.injEq, reduceCtorEq] at h <;> subst h <;> rfl

section Copies

variable {r r' : Record} {t : ColumnTypes} {sql : String} {dialect : Option String}

/-- What a copy is read from, if the record can be written. -/
theorem Record.copy_of_writable (ht : t.validate r.schema = .ok ()) (hk : t.GivesKinds r.schema)
    (hrange : ∀ c ∈ r.columns t, c.1.kind.rangeFault? c.2.1 c.2.2 = none) :
    ∃ r', r.copy t sql dialect = .ok r' ∧ r'.schema = r.schema ∧ r'.values = r.returned t := by
  have hkinds := hk.kind_of_mem ht
  have hwritable : ∀ i c, (r.columns t)[i]? = some c →
      Writable (Statement.ofSql sql r.schema.size dialect).count (1 + i) c.1 c.2.1 c.2.2 := by
    intro i c hi
    have hc := List.mem_of_getElem? hi
    obtain ⟨hnarrow, htemporal⟩ := Kind.rangeFault?_eq_none_iff.1 (hrange c hc)
    refine ⟨isScalar_of_ofSqlType? (hkinds c hc), hnarrow, htemporal, ?_⟩
    have hlt := (List.getElem?_eq_some_iff.1 hi).1
    rw [Record.length_columns ht] at hlt
    show ((1 + i : Nat) : Int) ≤ (r.schema.size : Int)
    omega
  have hrun := (Statement.ofSql sql r.schema.size dialect).bindAll_of_writable (Nat.succ_pos 0)
    (r.holds_of_mem_columns t) hwritable
  have hparameters := Statement.parameters_of_bindings sql dialect (r.columns t)
  rw [Record.length_columns ht] at hparameters
  obtain ⟨r', hread, hschema, hvalues⟩ :=
    Record.ofRow_of_sent (Statement.ofSql sql r.schema.size dialect) ht hk hrange
  refine ⟨r', ?_, hschema, hvalues⟩
  rw [Record.copy, Statement.write_table _ r ht, hrun]
  simp only [hparameters, bind, Except.bind, hread]

/-- A copy that succeeds is that of a record whose values are in the ranges of their columns. -/
theorem Record.rangeFault?_of_copy (ht : t.validate r.schema = .ok ()) (h : r.copy t sql dialect = .ok r') :
    ∀ c ∈ r.columns t, c.1.kind.rangeFault? c.2.1 c.2.2 = none := by
  have hwritten : ((Statement.ofSql sql r.schema.size dialect).write r r.schema (.table t)).2 = .ok () := by
    unfold Record.copy at h
    split at h
    · cases h
    · rename_i hw
      rw [hw]
  exact rangeFault?_of_writable (Statement.write_ok ht hwritten).1

/-- The columns of a copy are those of the record with the projections of the values. -/
theorem Record.columns_of_returned (ht : t.validate r.schema = .ok ()) (hschema : r'.schema = r.schema)
    (hvalues : r'.values = r.returned t) :
    r'.columns t = (r.columns t).map fun c => (c.1, c.2.1, c.1.kind.returned c.2.1 c.2.2) := by
  obtain ⟨hfields, htypes, -⟩ := Record.columns_parts ht
  rw [Record.columns, hschema, hvalues, Record.returned, ← hfields, ← htypes, List.zip_map', List.zip_map']

/-- The projections of projections differ from them only by the line feeds at the end of large texts. -/
theorem Record.returned_of_returned (ht : t.validate r.schema = .ok ()) (hk : t.GivesKinds r.schema)
    (hschema : r'.schema = r.schema) (hvalues : r'.values = r.returned t) :
    r'.returned t = (r'.columns t).map fun c => c.2.1.withoutBreak c.2.2 := by
  rw [Record.returned, Record.columns_of_returned ht hschema hvalues, List.map_map, List.map_map]
  exact List.map_congr_left fun c hc => Kind.returned_returned (hk.kind_of_mem ht c hc)

theorem Record.returned_eq_values_iff (ht : t.validate r.schema = .ok ()) (hk : t.GivesKinds r.schema)
    (hschema : r'.schema = r.schema) (hvalues : r'.values = r.returned t) :
    r'.returned t = r'.values ↔ ¬r.HasEmptyLine t := by
  rw [Record.returned_of_returned ht hk hschema hvalues, Record.columns_of_returned ht hschema hvalues, hvalues,
    Record.returned, List.map_map, List.map_inj_left]
  constructor
  · rintro h ⟨c, hc, hlast⟩
    exact (withoutBreak_returned_eq_iff (hk.kind_of_mem ht c hc)).1 (h c hc) hlast
  · intro h c hc
    exact (withoutBreak_returned_eq_iff (hk.kind_of_mem ht c hc)).2 fun hlast => h ⟨c, hc, hlast⟩

/-- A record that a copy leaves as it is, whatever the dialect, is left as it is by any number of copies. -/
theorem Record.foldlM_copy (h : ∀ sql dialect, r.copy t sql dialect = .ok r) :
    ∀ passes : List (String × Option String), passes.foldlM (fun r' pass => r'.copy t pass.1 pass.2) r = .ok r
  | [] => rfl
  | pass :: passes => by
    rw [List.foldlM_cons, h pass.1 pass.2]
    exact foldlM_copy h passes

/-- **A copy of a copy.** It never fails, whatever the dialects of the two copies, and differs from the copy only
in large texts that end in a line feed, of which it drops that line feed. It is the copy itself if and only if no
large text of the record ends in an empty line, and then all further copies are. -/
theorem Record.copy_copy {r r₁ : Record} {t : ColumnTypes} {sql : String} {dialect : Option String}
    (ht : t.validate r.schema = .ok ()) (hk : t.GivesKinds r.schema) (h : r.copy t sql dialect = .ok r₁) :
    (∀ sql' dialect', ∃ r₂, r₁.copy t sql' dialect' = .ok r₂ ∧ r₂.schema = r₁.schema ∧
      r₂.values = (r₁.columns t).map fun c => c.2.1.withoutBreak c.2.2) ∧
    (∀ sql' dialect', r₁.copy t sql' dialect' = .ok r₁ ↔ ¬r.HasEmptyLine t) ∧
    (¬r.HasEmptyLine t → ∀ passes : List (String × Option String),
      passes.foldlM (fun r' pass => r'.copy t pass.1 pass.2) r₁ = .ok r₁) := by
  have hrange := Record.rangeFault?_of_copy ht h
  obtain ⟨r', hr', hschema, hvalues⟩ := Record.copy_of_writable ht hk hrange
  obtain rfl : r' = r₁ := Except.ok.inj (hr'.symm.trans h)
  -- The copy is in range as well, so it can be copied in turn.
  have hrange' : ∀ c ∈ r'.columns t, c.1.kind.rangeFault? c.2.1 c.2.2 = none := by
    rw [Record.columns_of_returned ht hschema hvalues]
    intro c hc
    obtain ⟨c₀, hc₀, rfl⟩ := List.mem_map.1 hc
    exact Kind.rangeFault?_returned (hrange c₀ hc₀)
  have hcopy : ∀ sql' dialect', ∃ r₂, r'.copy t sql' dialect' = .ok r₂ ∧ r₂.schema = r'.schema ∧
      r₂.values = r'.returned t := fun sql' dialect' =>
    Record.copy_of_writable (hschema ▸ ht) (hschema ▸ hk) hrange'
  have hsame : ∀ sql' dialect', r'.copy t sql' dialect' = .ok r' ↔ ¬r.HasEmptyLine t := by
    intro sql' dialect'
    obtain ⟨r₂, hr₂, hschema₂, hvalues₂⟩ := hcopy sql' dialect'
    rw [← Record.returned_eq_values_iff ht hk hschema hvalues, ← hvalues₂, hr₂]
    constructor
    · intro heq
      rw [Except.ok.inj heq]
    · intro heq
      rw [Record.eq_of_values hschema₂ heq]
  refine ⟨fun sql' dialect' => ?_, hsame, fun hline => ?_⟩
  · rw [← Record.returned_of_returned ht hk hschema hvalues]
    exact hcopy sql' dialect'
  · exact Record.foldlM_copy fun sql' dialect' => (hsame sql' dialect').2 hline

theorem copy_note (text : String) : (note text).copy noteTypes "" none = .ok (note (Text.joinLines text)) := rfl

theorem not_hasEmptyLine_note {text : String} (h : ¬Text.EndsInEmptyLine text) :
    ¬(note text).HasEmptyLine noteTypes := by
  rintro ⟨c, hc, -, s, hs, hline⟩
  have hcolumns : (note text).columns noteTypes = [(_, .tinyint, .int 7), (_, .clob, .text text)] := rfl
  rw [hcolumns, List.mem_cons, List.mem_singleton] at hc
  rcases hc with rfl | rfl
  · cases hs
  · cases hs
    exact h hline

theorem Record.copy_copy_note :
    ¬(note "a\n").HasEmptyLine noteTypes ∧
      ∀ passes : List (String × Option String),
        passes.foldlM (fun r' pass => r'.copy noteTypes pass.1 pass.2) (note (Text.joinLines "a\n")) =
          .ok (note (Text.joinLines "a\n")) :=
  have hline := not_hasEmptyLine_note (by decide)
  ⟨hline, (Record.copy_copy rfl (by decide) (copy_note "a\n")).2.2 hline⟩

/-- A copy can change a record that is a copy itself. -/
theorem Record.copy_not_fixed :
    ¬∀ (r r₁ : Record) (t : ColumnTypes) (sql : String) (dialect : Option String), t.validate r.schema = .ok () →
      t.GivesKinds r.schema → r.copy t sql dialect = .ok r₁ → r₁.copy t sql dialect = .ok r₁ := by
  intro h
  have hsame := h (note "a\n\n") (note (Text.joinLines "a\n\n")) noteTypes "" none rfl (by decide) (copy_note _)
  rw [copy_note] at hsame
  have hvalues := congrArg Record.values (Except.ok.inj hsame)
  have htext : Text.joinLines (Text.joinLines "a\n\n") = Text.joinLines "a\n\n" := by
    simpa [note] using hvalues
  exact absurd htext (by decide)

end Copies

end TypedRows
