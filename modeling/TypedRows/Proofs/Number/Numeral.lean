import TypedRows.Number.Numeral
/-!
# Digits read as the integer they write

White space, signs and underscores may stand in a numeral, but need not. A text of ASCII digits alone is read to its
end, as a numeral without a sign (`integer?_digits`).
-/

namespace TypedRows

theorem toNat_of_isDigit {c : Char} (h : c.isDigit = true) : 48 ≤ c.toNat ∧ c.toNat ≤ 57 := by
  simp only [Char.isDigit, Bool.and_eq_true, decide_eq_true_eq] at h
  exact h

theorem Text.digitValue?_of_isDigit {c : Char} (h : c.isDigit = true) : digitValue? c = some (c.toNat - 48) := by
  obtain ⟨hlow, hhigh⟩ := toNat_of_isDigit h
  rw [digitValue?, zeroDigits, List.find?_cons_of_pos (by simp; omega)]
  rfl

theorem Text.isWhiteSpace_of_isDigit {c : Char} (h : c.isDigit = true) : isWhiteSpace c = false := by
  obtain ⟨hlow, hhigh⟩ := toNat_of_isDigit h
  have hblank : isBlank c = false := by
    simp [isBlank, inRanges, blankRanges]
    omega
  rw [isWhiteSpace, hblank, Bool.false_and]

theorem Text.stripWhere_eq_self {p : Char → Bool} {cs : List Char} (h : ∀ c ∈ cs, p c = false) :
    stripWhere p cs = cs := by
  have hkept : ∀ l : List Char, (∀ c ∈ l, p c = false) → l.dropWhile p = l := by
    intro l hl
    cases l with
    | nil => rfl
    | cons c l => rw [List.dropWhile_cons_of_neg (by simp [hl c List.mem_cons_self])]
  rw [stripWhere, hkept cs h, hkept cs.reverse fun c hc => h c (List.mem_reverse.1 hc), List.reverse_reverse]

namespace Numeral

variable {cs : List Char}

/-- Digits without underscores between them are all spanned. -/
theorem spanFollowing_digits : ∀ {cs : List Char}, (∀ c ∈ cs, c.isDigit = true) →
    spanFollowing cs = (cs.map fun c => c.toNat - 48, [])
  | [], _ => rfl
  | c :: cs, h => by
    have hc := h c List.mem_cons_self
    have ih := spanFollowing_digits fun c' h' => h c' (List.mem_cons_of_mem _ h')
    unfold spanFollowing
    split
    · rename_i heq
      cases heq
    · rename_i heq
      obtain ⟨rfl, -⟩ := List.cons.inj heq
      cases hc
    · rename_i heq
      obtain ⟨rfl, rfl⟩ := List.cons.inj heq
      simp only [Text.digitValue?_of_isDigit hc, ih, List.map_cons]

theorem spanGroups_digits (h : ∀ c ∈ cs, c.isDigit = true) :
    spanGroups cs = (cs.map fun c => c.toNat - 48, []) := by
  cases cs with
  | nil => rfl
  | cons c cs =>
    rw [spanGroups, Text.digitValue?_of_isDigit (h c List.mem_cons_self),
      spanFollowing_digits fun c' h' => h c' (List.mem_cons_of_mem _ h')]
    rfl

theorem spanSign_digits (h : ∀ c ∈ cs, c.isDigit = true) : Decimal.spanSign cs = (false, cs) := by
  unfold Decimal.spanSign
  split
  · exact absurd (h '-' List.mem_cons_self) (by decide)
  · exact absurd (h '+' List.mem_cons_self) (by decide)
  · rfl

theorem trimmed_digits (h : ∀ c ∈ cs, c.isDigit = true) : trimmed (String.ofList cs) = cs := by
  rw [trimmed, String.toList_ofList]
  exact Text.stripWhere_eq_self fun c hc => Text.isWhiteSpace_of_isDigit (h c hc)

/-- **Digits alone are a numeral without a sign.** -/
theorem integer?_digits (hne : cs ≠ []) (h : ∀ c ∈ cs, c.isDigit = true) :
    integer? (String.ofList cs) = some ⟨false, cs.map fun c => c.toNat - 48⟩ := by
  have hspan : spanInteger (String.ofList cs) = (⟨false, cs.map fun c => c.toNat - 48⟩, []) := by
    simp only [spanInteger, trimmed_digits h, spanSign_digits h, spanGroups_digits h]
  have hsome : (cs.map fun c => c.toNat - 48).isEmpty = false := by
    rw [List.isEmpty_eq_false_iff, ne_eq, List.map_eq_nil_iff]
    exact hne
  simp [integer?, hspan, hsome]

/-- The number that digits write, from the first on. -/
theorem ofDigits_map (cs : List Char) :
    Decimal.ofDigits (cs.map fun c => c.toNat - 48) = Nat.ofDigitChars 10 cs 0 := by
  rw [Decimal.ofDigits, List.foldl_map]
  rfl

end Numeral

end TypedRows
