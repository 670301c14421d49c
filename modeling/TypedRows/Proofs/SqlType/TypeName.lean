import TypedRows.SqlType.TypeName
/-!
# Spellings of type names

A type may be written with its name in any case, followed by parameters in parentheses. Blanks and the parenthesis have
no case, and no name contains them, so what is written before the parenthesis survives the reading unchanged but for
its case.

Main statement: `SqlType.ofTypeName?_of_spelledBy`.
-/

namespace TypedRows

namespace Text

/-- Blanks have no case. -/
theorem upperChar_of_isBlank {c : Char} (h : isBlank c = true) : upperChar c = [c] := by
  have hall : ∀ range ∈ blankRanges, ∀ n ∈ List.range' range.1 (range.2 - range.1 + 1),
      upperChar (Char.ofNat n) = [Char.ofNat n] := by
    decide +kernel
  obtain ⟨range, hrange, hbounds⟩ := List.any_eq_true.1 h
  rw [Bool.and_eq_true, decide_eq_true_eq, decide_eq_true_eq] at hbounds
  have hmem : c.toNat ∈ List.range' range.1 (range.2 - range.1 + 1) := by
    rw [List.mem_range'_1]
    omega
  simpa using hall range hrange c.toNat hmem

/-- Nothing is dropped from a text without blanks. -/
theorem strip_of_forall {cs : List Char} (h : ∀ c ∈ cs, isBlank c = false) : strip cs = cs := by
  have hdrop : ∀ cs' : List Char, (∀ c ∈ cs', isBlank c = false) → cs'.dropWhile isBlank = cs' := by
    intro cs' hcs'
    cases cs' with
    | nil => rfl
    | cons c cs' => exact List.dropWhile_cons_of_neg (by simp [hcs' c List.mem_cons_self])
  rw [strip, stripWhere, hdrop cs h, hdrop cs.reverse (by simpa using h), List.reverse_reverse]

end Text

namespace SqlType

/-- The text is the name of the type in any case, followed by nothing or by a parenthesis and anything after it. -/
def SpelledBy (t : SqlType) (text : String) : Prop :=
  ∃ base suffix, text = base ++ suffix ∧ Text.upper base = t.name ∧ (suffix = "" ∨ ∃ inner, suffix = "(" ++ inner)

theorem not_isBlank_of_mem_name (t : SqlType) : ∀ c ∈ t.name.toList, Text.isBlank c = false := by
  have hall : (t.name.toList.all fun c => !Text.isBlank c) = true := by cases t <;> decide
  simpa using hall

theorem ne_parenthesis_of_mem_name (t : SqlType) : ∀ c ∈ t.name.toList, c ≠ '(' := by
  have hall : (t.name.toList.all fun c => c != '(') = true := by cases t <;> decide
  simpa using hall

/-- No other name of a type is the name of a type. -/
theorem lookup_aliases_name (t : SqlType) : aliases.lookup t.name = none := by
  cases t <;> decide

/-- What is left of a spelling is the name. -/
theorem baseName_of_spelledBy {t : SqlType} {text : String} (h : t.SpelledBy text) :
    baseName text = t.name.toList := by
  obtain ⟨base, suffix, rfl, hupper, hsuffix⟩ := h
  have hbase : base.toList.flatMap Text.upperChar = t.name.toList := by
    rw [← hupper, Text.upper, String.toList_ofList]
  -- A character without a case that stands in the text stands in the name.
  have hmem : ∀ c ∈ base.toList, Text.upperChar c = [c] → c ∈ t.name.toList := by
    intro c hc hself
    rw [← hbase, List.mem_flatMap]
    exact ⟨c, hc, hself ▸ List.mem_singleton_self c⟩
  have hblank : ∀ c ∈ base.toList, Text.isBlank c = false := by
    intro c hc
    cases hc' : Text.isBlank c with
    | false => rfl
    | true =>
      have hname := t.not_isBlank_of_mem_name c (hmem c hc (Text.upperChar_of_isBlank hc'))
      rw [hc'] at hname
      cases hname
  have hopen : ∀ c ∈ base.toList, (decide (c ≠ '(')) = true := by
    intro c hc
    rw [decide_eq_true_eq]
    rintro rfl
    exact t.ne_parenthesis_of_mem_name '(' (hmem '(' hc (by decide)) rfl
  have htake : (base ++ suffix).toList.takeWhile (· ≠ '(') = base.toList := by
    rw [String.toList_append, List.takeWhile_append_of_pos hopen]
    rcases hsuffix with rfl | ⟨inner, rfl⟩
    · simp
    · simp
  rw [baseName, htake, Text.strip_of_forall hblank, hbase]

/-- **A type is read from every spelling of its name.** -/
theorem ofTypeName?_of_spelledBy {t : SqlType} {text : String} (h : t.SpelledBy text) :
    ofTypeName? text = some t := by
  have hfilter : t.name.toList.filter (· ≠ ' ') = t.name.toList := by
    rw [List.filter_eq_self]
    intro c hc
    rw [decide_eq_true_eq]
    rintro rfl
    cases t.not_isBlank_of_mem_name ' ' hc
  simp only [ofTypeName?, baseName_of_spelledBy h, hfilter, String.ofList_toList, lookup_aliases_name, ofName?_name]

end SqlType

end TypedRows
