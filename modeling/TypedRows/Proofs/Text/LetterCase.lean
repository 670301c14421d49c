import TypedRows.Text.LetterCase
/-!
# The case of ASCII texts

The lower case of a capital sigma depends on the characters around it, so texts cannot be lowered piece by piece.
Texts of ASCII characters can: each character is lowered for itself (`lower_of_isAscii`).
-/

namespace TypedRows.Text

def IsAscii (cs : List Char) : Prop := ∀ c ∈ cs, c.toNat < 128

instance (cs : List Char) : Decidable (IsAscii cs) :=
  @List.decidableBAll Char (fun c => c.toNat < 128) (fun c => Nat.decLt c.toNat 128) cs

theorem isAscii_append {cs cs' : List Char} : IsAscii (cs ++ cs') ↔ IsAscii cs ∧ IsAscii cs' :=
  List.forall_mem_append

theorem isAscii_cons {c : Char} {cs : List Char} : IsAscii (c :: cs) ↔ c.toNat < 128 ∧ IsAscii cs :=
  List.forall_mem_cons

theorem isAscii_nil : IsAscii [] := by simp [IsAscii]

theorem lowerAfter_of_isAscii {before cs : List Char} (h : IsAscii cs) : lowerAfter before cs = cs.map Char.toLower := by
  induction cs generalizing before with
  | nil => rfl
  | cons c cs ih =>
    obtain ⟨hc, hcs⟩ := isAscii_cons.1 h
    have hsigma : c ≠ capitalSigma := by
      rintro rfl
      exact absurd hc (by decide)
    have hlower : lowerChar c = [c.toLower] := by
      rw [lowerChar, if_pos hc]
    rw [lowerAfter, if_neg hsigma, hlower, ih hcs]
    rfl

theorem toList_toLower (text : String) : text.toLower.toList = text.toList.map Char.toLower := String.toList_map

/-- **An ASCII text is lowered character by character.** -/
theorem lower_of_isAscii {text : String} (h : IsAscii text.toList) : lower text = text.toLower := by
  rw [← String.toList_inj, lower, lowerAfter_of_isAscii h, String.toList_ofList, toList_toLower]

/-- Names that are joined are lowered one by one. -/
theorem toLower_append (first second : String) : (first ++ second).toLower = first.toLower ++ second.toLower := by
  simp [← String.toList_inj, toList_toLower]

end TypedRows.Text
