import Mathlib.Algebra.Group.Nat.Defs
import TypedRows.Calendar.IsoReader
import TypedRows.Calendar.IsoText
import TypedRows.Proofs.Number.Numeral
import TypedRows.Proofs.Text.LetterCase
/-!
# Written dates and times read back

A number written with leading zeros is read by its width (`number?_padded`), whatever follows it: it fills its width
with digits, so none of the other things that the reader takes for a number come up. From this the reader takes a written
text apart in the order in which it was put together: the date up to the separator, the time up to its last number, the
fraction if there is one, the offset if there is one.

Main statements: `readTime_isoText`, `readDateTime_isoText` and `readDateTime_date_isoText`. The reader knows
offsets of whole minutes below a day only (`WholeMinutes`).
-/

namespace TypedRows

/-! ## Padded numbers -/

theorem digitChars_isDigit {n : Nat} : ∀ c ∈ digitChars n, c.isDigit = true :=
  fun _ h => Nat.isDigit_of_mem_toDigits (by decide) (by decide) h

theorem padded_isDigit {w n : Nat} : ∀ c ∈ (padded w n).toList, c.isDigit = true := by
  intro c h
  simp only [padded, String.toList_ofList, List.mem_append] at h
  rcases h with h | h
  · rw [List.eq_of_mem_replicate h]
    rfl
  · exact digitChars_isDigit c h

theorem length_padded {w n : Nat} (hw : 0 < w) (h : n < 10 ^ w) :
    (padded w n).toList.length = w := by
  have hle : (digitChars n).length ≤ w := (Nat.length_toDigits_le_iff (by decide) hw).2 h
  simp only [padded, String.toList_ofList, List.length_append, List.length_replicate]
  omega

theorem ofDigitChars_padded (w n : Nat) : Nat.ofDigitChars 10 (padded w n).toList 0 = n := by
  rw [padded, String.toList_ofList, Nat.ofDigitChars_append, Nat.ofDigitChars_replicate_zero, Nat.mul_zero]
  exact Nat.ofDigitChars_toDigits (by decide) (by decide)

namespace IsoReader

theorem digit?_of_isDigit {c : Char} (h : c.isDigit = true) : digit? c = some (c.toNat - 48) := by
  rw [digit?, if_pos h]

theorem integer?_digits {cs : List Char} (hne : cs ≠ []) (h : ∀ c ∈ cs, c.isDigit = true) :
    integer? cs = some (Nat.ofDigitChars 10 cs 0 : Int) := by
  rw [integer?, Numeral.integer?_digits hne h, Option.map_some, Numeral.Digits.value, Numeral.ofDigits_map]
  rfl

theorem integer?_padded {w n : Nat} (hw : 0 < w) (h : n < 10 ^ w) : integer? (padded w n).toList = some (n : Int) := by
  have hne : (padded w n).toList ≠ [] := List.ne_nil_of_length_pos (by rwa [length_padded hw h])
  rw [integer?_digits hne padded_isDigit, ofDigitChars_padded]

theorem number?_padded {w n : Nat} (hw : 0 < w) (h : n < 10 ^ w) (rest : List Char) :
    number? w ((padded w n).toList ++ rest) = some ((n : Int), rest) := by
  have hl := length_padded hw h
  rw [number?, List.take_left' hl, List.drop_left' hl, integer?_padded hw h]
  rfl

theorem fullNumber?_padded {w n : Nat} (hw : 0 < w) (h : n < 10 ^ w) (rest : List Char) :
    fullNumber? w ((padded w n).toList ++ rest) = some ((n : Int), rest) := by
  rw [fullNumber?, if_neg (by simp [length_padded hw h]), number?_padded hw h]

/-- A number of two digits, with the digits laid open. -/
theorem padded_two {n : Nat} (h : n < 100) :
    ∃ a b, (padded 2 n).toList = [a, b] ∧ a.isDigit = true ∧ b.isDigit = true := by
  have hl := length_padded (w := 2) (by decide) (show n < 10 ^ 2 by omega)
  have hd := padded_isDigit (w := 2) (n := n)
  match hcs : (padded 2 n).toList, hl with
  | [a, b], _ =>
    rw [hcs] at hd
    exact ⟨a, b, rfl, hd a (by simp), hd b (by simp)⟩

theorem beginsOffset_of_isDigit {c : Char} (h : c.isDigit = true) : beginsOffset c = false := by
  have hne : ∀ c' : Char, c'.isDigit = false → (c == c') = false := by
    intro c' h'
    rw [beq_eq_false_iff_ne]
    rintro rfl
    rw [h] at h'
    cases h'
  simp [beginsOffset, hne]

/-! ## Offsets -/

/-- The offset, if there is one, is of whole minutes and shorter than a day. -/
def WholeMinutes (offset : Option Int) : Prop := ∀ o, offset = some o → o % 60 = 0 ∧ o.natAbs < 86400

theorem wholeMinutes_none : WholeMinutes none := by
  intro o h
  cases h

/-- The text of an offset is empty or begins with a sign. -/
theorem offsetText_cases (offset : Option Int) :
    (offset = none ∧ (offsetText offset).toList = []) ∨
      ∃ c rest, (offsetText offset).toList = c :: rest ∧ (c = '+' ∨ c = '-') := by
  cases offset with
  | none => exact Or.inl ⟨rfl, rfl⟩
  | some o =>
    right
    by_cases h : o < 0 <;> simp [offsetText, h]

theorem offset?_sign {sign : Char} (hs : sign = '+' ∨ sign = '-') {hours minutes : Nat} (hh : hours ≤ 23)
    (hm : minutes ≤ 59) :
    offset? (sign :: ((padded 2 hours).toList ++ ':' :: (padded 2 minutes).toList)) =
      some (if sign = '-' then -(((hours : Int) * 60 + minutes) * 60) else (hours * 60 + minutes) * 60) := by
  have hhours := number?_padded (w := 2) (by decide) (show hours < 10 ^ 2 by omega)
    (':' :: (padded 2 minutes).toList)
  have hminutes := integer?_padded (w := 2) (by decide) (show minutes < 10 ^ 2 by omega)
  have hlength : ((padded 2 hours).toList ++ ':' :: (padded 2 minutes).toList).length = 5 := by
    simp [length_padded (w := 2) (by decide) (show hours < 10 ^ 2 by omega),
      length_padded (w := 2) (by decide) (show minutes < 10 ^ 2 by omega)]
  have hseconds : offsetSeconds? sign hours minutes =
      some (if sign = '-' then -(((hours : Int) * 60 + minutes) * 60) else (hours * 60 + minutes) * 60) := by
    unfold offsetSeconds?
    split
    · rename_i hzero
      simp [hzero.1, hzero.2]
    · rw [if_neg (by omega)]
  unfold offset?
  split
  · rename_i heq
    rcases hs with rfl | rfl <;> simp at heq
  · rename_i heq
    rcases hs with rfl | rfl <;> simp at heq
  · rename_i heq
    obtain ⟨rfl, rfl⟩ := List.cons.inj heq
    rw [if_pos ⟨hs, Or.inr (Or.inr hlength)⟩, hhours]
    simp only [Option.bind_eq_bind, Option.bind_some, hminutes, hseconds]
  · rename_i heq
    cases heq

theorem offset?_offsetText {o : Int} (h : WholeMinutes (some o)) :
    offset? (offsetText (some o)).toList = some o := by
  obtain ⟨hmin, hday⟩ := h o rfl
  have hs : o.natAbs % 60 = 0 := by omega
  have hh : o.natAbs / 3600 ≤ 23 := by omega
  have hm : o.natAbs / 60 % 60 ≤ 59 := by omega
  have htext : (offsetText (some o)).toList = (if o < 0 then '-' else '+') ::
      ((padded 2 (o.natAbs / 3600)).toList ++ ':' :: (padded 2 (o.natAbs / 60 % 60)).toList) := by
    by_cases hneg : o < 0 <;> simp [offsetText, hs, hneg]
  rw [htext]
  by_cases hneg : o < 0
  · rw [if_pos hneg, offset?_sign (Or.inr rfl) hh hm, if_pos rfl]
    congr 1
    omega
  · rw [if_neg hneg, offset?_sign (Or.inl rfl) hh hm, if_neg (by decide)]
    congr 1
    omega

/-- What is left after the last number of a time is the text of its offset. -/
theorem ending?_offsetText {offset : Option Int} (h : WholeMinutes offset) (time : RawTime) :
    ending? { time with offset := none } (offsetText offset).toList = some { time with offset := offset } := by
  cases offset with
  | none => rfl
  | some o =>
    have key := offset?_offsetText h
    rcases offsetText_cases (some o) with ⟨hn, _⟩ | ⟨c, rest, hc, hsign⟩
    · cases hn
    · have hbegin : beginsOffset c = true := by rcases hsign with rfl | rfl <;> rfl
      rw [hc] at key ⊢
      simp only [ending?, hbegin, ↓reduceIte, key, Option.map_some]

/-! ## Times -/

theorem takeWhile_isDigit_append {cs rest : List Char} (h : ∀ c ∈ cs, c.isDigit = true)
    (hrest : rest.head?.all fun c => !c.isDigit) :
    (cs ++ rest).takeWhile Char.isDigit = cs ∧ (cs ++ rest).dropWhile Char.isDigit = rest := by
  have hr : rest.takeWhile Char.isDigit = [] ∧ rest.dropWhile Char.isDigit = rest := by
    cases rest with
    | nil => exact ⟨rfl, rfl⟩
    | cons c rest =>
      have hc : c.isDigit = false := by simpa using hrest
      simp [hc]
  rw [List.takeWhile_append_of_pos h, List.dropWhile_append_of_pos h, hr.1, hr.2, List.append_nil]
  exact ⟨rfl, rfl⟩

theorem filterMap_digit? : ∀ (cs : List Char), (∀ c ∈ cs, c.isDigit = true) →
    cs.filterMap digit? = cs.map fun c => c.toNat - 48
  | [], _ => rfl
  | c :: cs, h => by
    rw [List.filterMap_cons_some (digit?_of_isDigit (h c List.mem_cons_self)), List.map_cons,
      filterMap_digit? cs fun c' h' => h c' (List.mem_cons_of_mem _ h')]

/-- A fraction of six digits is a count of microseconds. -/
theorem microsOf_padded {n : Nat} (h : n < 1000000) :
    microsOf ((padded 6 n).toList.filterMap digit?) = n := by
  have hl := length_padded (w := 6) (by decide) (show n < 10 ^ 6 by omega)
  rw [filterMap_digit? _ padded_isDigit, microsOf, List.take_left' (by rw [List.length_map, hl]), List.foldl_map]
  exact ofDigitChars_padded 6 n

/-- The characters of a time, in the order in which they are read. -/
theorem toList_isoText (t : TimeOfDay) (offset : Option Int) :
    (t.isoText offset).toList = (padded 2 t.hour).toList ++ ':' :: ((padded 2 t.minute).toList ++
      ':' :: ((padded 2 t.second).toList ++
        ((if t.micro = 0 then [] else '.' :: (padded 6 t.micro).toList) ++ (offsetText offset).toList))) := by
  by_cases h : t.micro = 0 <;> simp [TimeOfDay.isoText, h]

/-- The fraction and the offset are read as the microseconds and the offset. -/
theorem fractionOn?_isoText {offset : Option Int} (h : WholeMinutes offset) {micro : Nat} (hm : micro < 1000000)
    (hour minute second : Int) :
    fractionOn? ⟨hour, minute, second, 0, none⟩
      ((if micro = 0 then [] else '.' :: (padded 6 micro).toList) ++ (offsetText offset).toList) =
      some ⟨hour, minute, second, micro, offset⟩ := by
  have hend := fun n => ending?_offsetText h ⟨hour, minute, second, n, none⟩
  by_cases h0 : micro = 0
  · subst h0
    rw [if_pos rfl, List.nil_append]
    rcases offsetText_cases offset with ⟨rfl, hnil⟩ | ⟨c, rest, hc, hsign⟩
    · rfl
    · have hdot : ¬ (c = '.' ∨ c = ',') := by rcases hsign with rfl | rfl <;> decide
      have hz := hend 0
      rw [hc] at hz ⊢
      simp only [fractionOn?, hdot, ↓reduceIte]
      exact hz
  · have hrest : (offsetText offset).toList.head?.all fun c => !c.isDigit := by
      rcases offsetText_cases offset with ⟨-, hnil⟩ | ⟨c, rest, hc, hsign⟩
      · rw [hnil]
        rfl
      · rw [hc]
        rcases hsign with rfl | rfl <;> rfl
    obtain ⟨htake, hdrop⟩ := takeWhile_isDigit_append (padded_isDigit (w := 6) (n := micro)) hrest
    have hne : ((padded 6 micro).toList.filterMap digit?).isEmpty = false := by
      rw [filterMap_digit? _ padded_isDigit, List.isEmpty_eq_false_iff, ne_eq, List.map_eq_nil_iff]
      intro hnil
      have hl := length_padded (w := 6) (by decide) (show micro < 10 ^ 6 by omega)
      rw [hnil] at hl
      cases hl
    rw [if_neg h0, List.cons_append]
    simp only [fractionOn?, true_or, ↓reduceIte, htake, hdrop, hne, Bool.false_eq_true, microsOf_padded hm]
    exact hend micro

theorem rawTime?_isoText (t : TimeOfDay) {offset : Option Int} (h : WholeMinutes offset) :
    rawTime? (t.isoText offset).toList = some ⟨t.hour, t.minute, t.second, t.micro, offset⟩ := by
  obtain ⟨h1, h2, h3, h4⟩ := t.isTime
  have hfrac := fractionOn?_isoText h h4 t.hour t.minute t.second
  have hhour := number?_padded (w := 2) (by decide) (show t.hour < 10 ^ 2 by omega)
  obtain ⟨a, b, hab, ha, -⟩ := padded_two (show t.hour < 100 by omega)
  have hminute := number?_padded (w := 2) (by decide) (show t.minute < 10 ^ 2 by omega)
  have hsecond := number?_padded (w := 2) (by decide) (show t.second < 10 ^ 2 by omega)
  have hcolon : beginsOffset ':' = false := rfl
  have hfits : RawTime.hourFits ⟨t.hour, t.minute, t.second, t.micro, offset⟩ = true := by
    have hne : ((t.hour : Int) != 24) = true := by
      rw [bne_iff_ne]
      omega
    simp [RawTime.hourFits, hne]
  rw [toList_isoText]
  generalize (if t.micro = 0 then [] else '.' :: (padded 6 t.micro).toList) ++ (offsetText offset).toList = tail
    at hfrac
  have hread := hhour (':' :: ((padded 2 t.minute).toList ++ ':' :: ((padded 2 t.second).toList ++ tail)))
  rw [hab] at hread ⊢
  simp only [List.cons_append, List.nil_append] at hread ⊢
  simp only [rawTime?, beginsOffset_of_isDigit ha, Bool.false_eq_true, ↓reduceIte, hread, Option.bind_eq_bind,
    Option.bind_some, minutesOn?, hcolon, hminute, secondsOn?, hsecond, hfrac]
  simpa using hfits

/-! ## Dates -/

theorem toList_date_isoText (d : Date) :
    d.isoText.toList = (padded 4 d.year).toList ++ '-' :: ((padded 2 d.month).toList ++
      '-' :: (padded 2 d.day).toList) := by
  simp [Date.isoText]

/-- The date is read up to the end of the text or up to the separator. -/
theorem rawDate_isoText (d : Date) (rest : List Char) :
    rawDate (d.isoText.toList ++ rest) = .ok (.ofDate d, rest) := by
  obtain ⟨_, hy, _, hm, _, hd⟩ := d.isDate
  have hday : d.day < 10 ^ 2 := by
    have hle : ∀ n ∈ monthLengths d.year, n ≤ 31 := by
      unfold monthLengths
      split <;> decide
    rw [daysInMonth, if_neg (by omega)] at hd
    have hlt : d.month - 1 < (monthLengths d.year).length := by
      rw [show (monthLengths d.year).length = 12 from rfl]
      omega
    rw [List.getD_eq_getElem?_getD, List.getElem?_eq_getElem hlt, Option.getD_some] at hd
    have := hle _ (List.getElem_mem hlt)
    omega
  have hyear := fullNumber?_padded (w := 4) (by decide) (show d.year < 10 ^ 4 by omega)
  have hmonth := fullNumber?_padded (w := 2) (by decide) (show d.month < 10 ^ 2 by omega)
  have hday := fullNumber?_padded (w := 2) (by decide) hday
  have hcal : calendarDate? (d.isoText.toList ++ rest) = some (.ofDate d, rest) := by
    rw [toList_date_isoText]
    simp only [List.append_assoc, List.cons_append, calendarDate?, hyear, Option.bind_eq_bind, Option.bind_some,
      hmonth, hday, RawDate.ofDate]
  rw [rawDate, hcal]

theorem ofNumbers?_date (d : Date) : Date.ofNumbers? d.year d.month d.day = some d := by
  rw [Date.ofNumbers?, dif_pos d.isDate]

theorem ofNumbers?_time (t : TimeOfDay) :
    TimeOfDay.ofNumbers? t.hour t.minute t.second t.micro = some t := by
  rw [TimeOfDay.ofNumbers?, dif_pos t.isTime]

theorem date?_ofDate (d : Date) : (RawDate.ofDate d).date? = some d := by
  rw [RawDate.date?]
  exact ofNumbers?_date d

theorem hour_ne_24 (t : TimeOfDay) : (t.hour : Int) ≠ 24 := by
  have := t.isTime.1
  omega

theorem time?_isoText (t : TimeOfDay) (offset : Option Int) :
    RawTime.time? ⟨t.hour, t.minute, t.second, t.micro, offset⟩ = some t := by
  have hnonneg : (0 : Int) ≤ t.hour ∧ (0 : Int) ≤ t.minute ∧ (0 : Int) ≤ t.second := by omega
  rw [RawTime.time?, if_pos hnonneg, if_neg (hour_ne_24 t)]
  exact ofNumbers?_time t

/-! ## ASCII -/

open Text (IsAscii isAscii_append isAscii_cons isAscii_nil)

theorem isAscii_padded (w n : Nat) : IsAscii (padded w n).toList := by
  intro c h
  have hd := padded_isDigit c h
  simp only [Char.isDigit, Bool.and_eq_true, decide_eq_true_eq] at hd
  have hle : c.val.toNat ≤ 57 := hd.2
  show c.val.toNat < 128
  omega

theorem isAscii_offsetText (offset : Option Int) : IsAscii (offsetText offset).toList := by
  cases offset with
  | none => exact isAscii_nil
  | some o =>
    by_cases hneg : o < 0 <;> by_cases hs : o.natAbs % 60 = 0 <;>
      simp [offsetText, hneg, hs, isAscii_append, isAscii_cons, isAscii_padded]

theorem isAscii_time (t : TimeOfDay) (offset : Option Int) : IsAscii (t.isoText offset).toList := by
  rw [toList_isoText]
  by_cases h : t.micro = 0 <;>
    simp [h, isAscii_append, isAscii_cons, isAscii_padded, isAscii_offsetText]

theorem isAscii_date (d : Date) : IsAscii d.isoText.toList := by
  rw [toList_date_isoText]
  simp [isAscii_append, isAscii_cons, isAscii_padded]

theorem asciiChars_of_isAscii {text : String} (h : IsAscii text.toList) : asciiChars text = .ok text.toList := by
  rw [asciiChars, if_pos]
  simpa [List.all_eq_true, IsAscii] using h

/-! ## The written form is read -/

/-- **A time reads back**, with its offset. -/
theorem readTime_isoText (t : TimeOfDay) {offset : Option Int} (h : WholeMinutes offset) :
    readTime (t.isoText offset) = .ok (t, offset) := by
  rw [readTime, asciiChars_of_isAscii (isAscii_time t offset)]
  simp only [bind, Except.bind, pure, Except.pure, rawTime?_isoText t h, orMalformed, time?_isoText]

/-- **A date alone reads back** as its start. -/
theorem readDateTime_date_isoText (d : Date) : readDateTime d.isoText = .ok (.ofDate d, none) := by
  have hraw := rawDate_isoText d []
  have hmid : RawTime.time? ⟨0, 0, 0, 0, none⟩ = some .midnight := time?_isoText .midnight none
  have h24 : ¬ (0 : Int) = 24 := by decide
  rw [List.append_nil] at hraw
  rw [readDateTime, asciiChars_of_isAscii (isAscii_date d)]
  simp only [bind, Except.bind, pure, Except.pure, hraw, orMalformed, date?_ofDate, h24, ↓reduceIte, hmid,
    DateTime.ofDate]

/-- **An instant reads back**, with its offset. -/
theorem readDateTime_isoText (d : DateTime) {offset : Option Int} (h : WholeMinutes offset) :
    readDateTime (d.isoText "T" offset) = .ok (d, offset) := by
  have htext : (d.isoText "T" offset).toList = d.date.isoText.toList ++ 'T' :: (d.time.isoText offset).toList := by
    simp [DateTime.isoText]
  have hascii : IsAscii (d.isoText "T" offset).toList := by
    rw [htext, isAscii_append, isAscii_cons]
    exact ⟨isAscii_date _, by decide, isAscii_time _ _⟩
  rw [readDateTime, asciiChars_of_isAscii hascii, htext]
  simp only [bind, Except.bind, pure, Except.pure, rawDate_isoText, rawTime?_isoText d.time h, orMalformed,
    date?_ofDate, hour_ne_24, ↓reduceIte, time?_isoText]

end IsoReader

end TypedRows
