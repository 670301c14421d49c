import Mathlib.Data.List.TakeWhile
import TypedRows.Proofs.Dialect.Resolution
import TypedRows.Proofs.SqlType.TypeName
/-!
# Two readings of a type name

A type name is read by the names of table declarations (`declaredType`) or by the general names (`SqlType.coerce`),
from two tables. Both readings see of a text only what is written before the first parenthesis, without the blanks
around it and without regard to the case of ASCII letters (`SqlType.baseName_eq`). So parameters, blanks on either side
and the case make no difference (`SqlType.SameName`). Where a name stands in both tables, it means the same type.

Main statement: `SqlType.readings_agree`, for every two texts.
-/

namespace TypedRows

namespace Text

/-! ## The case of ASCII letters -/

theorem forall_ascii {P : Char → Prop} (h : ∀ n ∈ List.range 128, P (Char.ofNat n)) {c : Char} (hc : c.toNat < 128) :
    P c := by
  have hc' := h c.toNat (List.mem_range.2 hc)
  rwa [Char.ofNat_toNat] at hc'

theorem toUpper_of_not_ascii {c : Char} (hc : ¬c.toNat < 128) : c.toUpper = c := by
  refine dif_neg ?_
  intro h
  have hle : c.toNat ≤ 'z'.toNat := h.2
  have hz : 'z'.toNat = 122 := rfl
  omega

/-- Letters that differ only in their case have the same upper case. -/
theorem upperChar_toUpper (c : Char) : upperChar c.toUpper = upperChar c := by
  by_cases hc : c.toNat < 128
  · exact forall_ascii (P := fun c => upperChar c.toUpper = upperChar c) (by decide +kernel) hc
  · rw [toUpper_of_not_ascii hc]

theorem isBlank_toUpper (c : Char) : isBlank c.toUpper = isBlank c := by
  by_cases hc : c.toNat < 128
  · exact forall_ascii (P := fun c => isBlank c.toUpper = isBlank c) (by decide +kernel) hc
  · rw [toUpper_of_not_ascii hc]

theorem toUpper_eq_parenthesis_iff (c : Char) : c.toUpper = '(' ↔ c = '(' := by
  by_cases hc : c.toNat < 128
  · exact forall_ascii (P := fun c => c.toUpper = '(' ↔ c = '(') (by decide +kernel) hc
  · rw [toUpper_of_not_ascii hc]

theorem flatMap_upperChar_map_toUpper (cs : List Char) :
    (cs.map Char.toUpper).flatMap upperChar = cs.flatMap upperChar := by
  simp only [List.flatMap_map, upperChar_toUpper]

/-! ## Blanks around a text -/

theorem strip_append_left {blanks : List Char} (h : ∀ c ∈ blanks, isBlank c = true) (cs : List Char) :
    strip (blanks ++ cs) = strip cs := by
  rw [strip, stripWhere, List.dropWhile_append_of_pos h]
  rfl

theorem strip_append_right {blanks : List Char} (h : ∀ c ∈ blanks, isBlank c = true) (cs : List Char) :
    strip (cs ++ blanks) = strip cs := by
  rw [strip, stripWhere, strip, stripWhere, List.dropWhile_append]
  cases hcs : (cs.dropWhile isBlank).isEmpty with
  | true =>
    have hblanks : blanks.dropWhile isBlank = [] := List.dropWhile_eq_nil_iff.2 h
    rw [if_pos rfl, hblanks, List.isEmpty_iff.1 hcs]
  | false =>
    rw [if_neg Bool.false_ne_true, List.reverse_append, List.dropWhile_append_of_pos (by simpa using h)]

/-- Blanks have no case. -/
theorem map_toUpper_strip (cs : List Char) : (strip cs).map Char.toUpper = strip (cs.map Char.toUpper) := by
  have hblank : isBlank ∘ Char.toUpper = isBlank := funext isBlank_toUpper
  simp only [strip, stripWhere, List.dropWhile_map, ← List.map_reverse, hblank]

end Text

namespace SqlType

/-! ## What is read of a text -/

/-- What is written before the first parenthesis, without the blanks around it, in ASCII capitals. -/
def writtenName (text : String) : List Char := (Text.strip (text.toList.takeWhile (· ≠ '('))).map Char.toUpper

/-- The texts differ at most in what follows the first parenthesis, in the blanks around what stands before it, and in
the case of ASCII letters. -/
def SameName (text text' : String) : Prop := writtenName text = writtenName text'

instance (text text' : String) : Decidable (SameName text text') := inferInstanceAs (Decidable (_ = _))

/-- **Nothing but the written name is read.** -/
theorem baseName_eq (text : String) : baseName text = (writtenName text).flatMap Text.upperChar := by
  rw [writtenName, Text.flatMap_upperChar_map_toUpper]
  rfl

theorem sameName_parameters (text parameters : String) : SameName (text ++ "(" ++ parameters) text := by
  have htake : (text ++ "(" ++ parameters).toList.takeWhile (· ≠ '(') = text.toList.takeWhile (· ≠ '(') := by
    have hopen : (text ++ "(" ++ parameters).toList = text.toList ++ '(' :: parameters.toList := by simp
    rw [hopen, List.takeWhile_append]
    split
    · rename_i hwhole
      rw [List.takeWhile_cons_of_neg (by simp), List.append_nil]
      exact ((List.takeWhile_prefix _).eq_of_length hwhole).symm
    · rfl
  rw [SameName, writtenName, htake]
  rfl

/-- No blank is a parenthesis. -/
theorem ne_parenthesis_of_isBlank {c : Char} (h : Text.isBlank c = true) : (decide (c ≠ '(')) = true := by
  rw [decide_eq_true_eq]
  rintro rfl
  exact absurd h (by decide)

theorem sameName_blanks_left {blanks : String} (h : ∀ c ∈ blanks.toList, Text.isBlank c = true) (text : String) :
    SameName (blanks ++ text) text := by
  rw [SameName, writtenName, String.toList_append,
    List.takeWhile_append_of_pos fun c hc => ne_parenthesis_of_isBlank (h c hc), Text.strip_append_left h]
  rfl

theorem sameName_blanks_right {blanks : String} (h : ∀ c ∈ blanks.toList, Text.isBlank c = true) (text : String) :
    SameName (text ++ blanks) text := by
  rw [SameName, writtenName, String.toList_append, List.takeWhile_append]
  split
  · rename_i hwhole
    have htext : text.toList.takeWhile (· ≠ '(') = text.toList := (List.takeWhile_prefix _).eq_of_length hwhole
    have hblanks : blanks.toList.takeWhile (· ≠ '(') = blanks.toList :=
      List.takeWhile_eq_self_iff.2 fun c hc => ne_parenthesis_of_isBlank (h c hc)
    rw [hblanks, Text.strip_append_right h, writtenName, htext]
  · rfl

/-- The written name is that of the text in ASCII capitals. -/
theorem writtenName_eq (text : String) :
    writtenName text = Text.strip ((text.toList.map Char.toUpper).takeWhile (· ≠ '(')) := by
  have hopen : (fun c : Char => decide (c ≠ '(')) ∘ Char.toUpper = fun c => decide (c ≠ '(') := by
    funext c
    simp only [Function.comp_apply, ne_eq, Text.toUpper_eq_parenthesis_iff]
  rw [writtenName, Text.map_toUpper_strip, List.takeWhile_map, hopen]

theorem sameName_case {text text' : String} (h : text.toUpper = text'.toUpper) : SameName text text' := by
  have hchars : text.toList.map Char.toUpper = text'.toList.map Char.toUpper := by
    simpa [String.toUpper, String.toList_map] using congrArg String.toList h
  rw [SameName, writtenName_eq, writtenName_eq, hchars]

/-! ## The two tables -/

/-- The type that a name in capitals means by the general names. -/
def ofUpperName? (name : List Char) : Option SqlType :=
  let name := String.ofList (name.filter (· ≠ ' '))
  (aliases.lookup name).or (ofName? name)

theorem ofTypeName?_eq (text : String) : ofTypeName? text = ofUpperName? (baseName text) := by
  simp only [ofTypeName?, ofUpperName?]
  cases aliases.lookup (String.ofList ((baseName text).filter (· ≠ ' '))) with
  | some t => rw [Option.some_or]
  | none => rw [Option.none_or]

/-- A name of a table declaration means the same among the general names, if it is one of them. -/
theorem ofUpperName?_of_mem_declaredNames :
    ∀ entry ∈ declaredNames, ∀ t ∈ ofUpperName? entry.1.toList, t = entry.2 := by
  decide +kernel

theorem eq_of_ofDeclaredName? {text : String} {t t' : SqlType} (h : ofDeclaredName? text = some t)
    (h' : ofTypeName? text = some t') : t = t' := by
  obtain ⟨before, after, hsplit, -⟩ := List.lookup_eq_some_iff.1 h
  have hmem : (String.ofList (baseName text), t) ∈ declaredNames :=
    hsplit ▸ List.mem_append_right _ List.mem_cons_self
  have hname := ofUpperName?_of_mem_declaredNames _ hmem
  rw [String.toList_ofList, ← ofTypeName?_eq, h'] at hname
  exact (hname t' rfl).symm

/-! ## Codes that are texts -/

theorem declaredType_of_asText? {code : Cell} {text : String} (h : code.asText? = some text) :
    declaredType code = ofDeclaredName? text := by
  rw [declaredType, h, Option.bind_some]

/-- A text that is no name of a type is refused as unsupported. -/
theorem coerce_of_asText? {code : Cell} {text : String} (h : code.asText? = some text) (column : Option String) :
    SqlType.coerce code column =
      match ofTypeName? text with
      | some t => .ok t
      | none => .error (.unsupported (.typeName code column)) := by
  have hrelaxed : code.relaxed = .text text := by
    unfold Cell.asText? at h
    split at h
    · rename_i s hs
      cases h
      exact hs
    · cases h
  have hshort : code.showsLongInteger = false := by
    cases code with
    | text | boxed => rfl
    | _ => cases hrelaxed
  have hcell : ofCell? code = ofTypeName? text := by simp only [ofCell?, hrelaxed]
  rw [SqlType.coerce, hcell]
  cases ofTypeName? text with
  | some t => rfl
  | none => simp [Cell.refuse, hshort]

/-- Two codes are read alike: by the names of table declarations they mean the same type or none, and by the general
names they mean the same type or are both unsupported. -/
structure ReadAlike (code code' : Cell) : Prop where
  declared : declaredType code = declaredType code'
  general : ∀ column column',
    (∃ t, SqlType.coerce code column = .ok t ∧ SqlType.coerce code' column' = .ok t) ∨
      ∃ e e', SqlType.coerce code column = .error (.unsupported e) ∧
        SqlType.coerce code' column' = .error (.unsupported e')

theorem readAlike_of_sameName {code code' : Cell} {text text' : String} (htext : code.asText? = some text)
    (htext' : code'.asText? = some text') (h : SameName text text') : ReadAlike code code' := by
  have hbase : baseName text = baseName text' := by rw [baseName_eq, baseName_eq, h]
  constructor
  · rw [declaredType_of_asText? htext, declaredType_of_asText? htext', ofDeclaredName?, ofDeclaredName?, hbase]
  · intro column column'
    rw [coerce_of_asText? htext, coerce_of_asText? htext', ofTypeName?_eq, ofTypeName?_eq, hbase]
    cases ofUpperName? (baseName text') with
    | some t => exact .inl ⟨t, rfl, rfl⟩
    | none => exact .inr ⟨_, _, rfl, rfl⟩

/-- **The two readings of a type name never contradict each other**, and both depend on the written name alone. So
parameters, blanks on either side and the case of letters make no difference to them. -/
theorem readings_agree (code : Cell) (text : String) (htext : code.asText? = some text) :
    (∀ column t t', declaredType code = some t → SqlType.coerce code column = .ok t' → t = t') ∧
    (∀ code' text', code'.asText? = some text' → SameName text text' → ReadAlike code code') ∧
    (∀ parameters, SameName (text ++ "(" ++ parameters) text) ∧
    (∀ blanks : String, (∀ c ∈ blanks.toList, Text.isBlank c = true) →
      SameName (blanks ++ text) text ∧ SameName (text ++ blanks) text) ∧
    ∀ text', text.toUpper = text'.toUpper → SameName text text' := by
  refine ⟨?_, fun code' text' htext' => readAlike_of_sameName htext htext', sameName_parameters text,
    fun blanks h => ⟨sameName_blanks_left h text, sameName_blanks_right h text⟩, fun text' => sameName_case⟩
  intro column t t' hdeclared hgeneral
  rw [declaredType_of_asText? htext] at hdeclared
  rw [coerce_of_asText? htext] at hgeneral
  cases hname : ofTypeName? text with
  | none =>
    rw [hname] at hgeneral
    cases hgeneral
  | some s =>
    rw [hname] at hgeneral
    cases hgeneral
    exact eq_of_ofDeclaredName? hdeclared hname

/-- A name of two words in mixed case with a parameter is read by both tables, and as it is without the parameter in
another case. -/
theorem readings_agree_double :
    declaredType (.text "Double Precision (8)") = some .double ∧
      SqlType.coerce (.text "Double Precision (8)") none = .ok .double ∧
      ReadAlike (.text "Double Precision (8)") (.text " double precision") := by
  have hdeclared : declaredType (.text "Double Precision (8)") = some .double := by decide +kernel
  have hsame : SameName "Double Precision (8)" " double precision" := by decide +kernel
  have hname : ofTypeName? "Double Precision (8)" = some .double := by decide +kernel
  obtain ⟨t, ht⟩ : ∃ t, SqlType.coerce (.text "Double Precision (8)") none = .ok t :=
    ⟨.double, by rw [coerce_of_asText? rfl, hname]⟩
  obtain ⟨hagree, halike, -⟩ := readings_agree (.text "Double Precision (8)") "Double Precision (8)" rfl
  obtain rfl := hagree none .double t hdeclared ht
  exact ⟨hdeclared, ht, halike (.text " double precision") " double precision" rfl hsame⟩

end SqlType

end TypedRows
