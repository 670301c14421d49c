import TypedRows.Proofs.Text.Lines
/-!
# Lines read from left to right

A `LineReader` goes through a text character by character. At a carriage return the line ends; a line feed ends the
line as well, unless it follows a carriage return, to whose line end it belongs. When the text is over, a line of which
nothing was read is none.

The reader needs no look-ahead where the pieces of a text look for the line feed behind a carriage return: its flag
makes up for it (`lines_foldl_afterReturn`). From any state, the run over a text adds the pieces of the text to what
was read before (`lines_foldl`), so the lines that are read are the lines of the text (`readLines_eq`).

Main statement: `joinLines_readLines`.
-/

namespace TypedRows.Text

/-! ## The reader -/

/-- A reader of lines in the middle of a text. -/
structure LineReader where
  /-- The lines that have ended. -/
  ended : List (List Char)
  /-- What has been read of the line that has not ended. -/
  started : List Char
  /-- The last character was a carriage return. -/
  afterReturn : Bool
deriving DecidableEq, Repr

namespace LineReader

def start : LineReader := ⟨[], [], false⟩

def endLine (r : LineReader) (afterReturn : Bool) : LineReader := ⟨r.ended ++ [r.started], [], afterReturn⟩

def read (r : LineReader) (c : Char) : LineReader :=
  if c = '\r' then r.endLine true
  else if c = '\n' then
    if r.afterReturn then { r with afterReturn := false } else r.endLine false
  else { r with started := r.started ++ [c], afterReturn := false }

/-- The lines that were read when the text is over. -/
def lines (r : LineReader) : List (List Char) :=
  if r.started = [] then r.ended else r.ended ++ [r.started]

/-! ## One step -/

variable (ended : List (List Char)) (started : List Char)

@[simp]
theorem read_return (afterReturn : Bool) :
    read ⟨ended, started, afterReturn⟩ '\r' = ⟨ended ++ [started], [], true⟩ := by
  simp [read, endLine]

@[simp]
theorem read_lineFeed : read ⟨ended, started, false⟩ '\n' = ⟨ended ++ [started], [], false⟩ := by
  simp [read, endLine]

@[simp]
theorem read_lineFeed_afterReturn : read ⟨ended, started, true⟩ '\n' = ⟨ended, started, false⟩ := by
  simp [read]

theorem read_other {c : Char} (hcr : c ≠ '\r') (hlf : c ≠ '\n') (afterReturn : Bool) :
    read ⟨ended, started, afterReturn⟩ c = ⟨ended, started ++ [c], false⟩ := by
  simp [read, hcr, hlf]

/-! ## A run -/

/-- The flag matters only if a line feed comes next. -/
theorem lines_foldl_afterReturn {cs : List Char} (h : ∀ rest, cs ≠ '\n' :: rest) :
    (cs.foldl read ⟨ended, started, true⟩).lines = (cs.foldl read ⟨ended, started, false⟩).lines := by
  cases cs with
  | nil => rfl
  | cons c rest =>
    have hlf : c ≠ '\n' := by
      rintro rfl
      exact h rest rfl
    by_cases hcr : c = '\r'
    · simp [hcr]
    · simp [read_other _ _ hcr hlf]

/-- The pieces of a text after an ended line. -/
theorem lines_foldl_pieces {ps : List (List Char)} (h : ps ≠ []) :
    ended ++ [started] ++ dropLastEmpty (ps.modifyHead ([] ++ ·)) =
      ended ++ dropLastEmpty (([] :: ps).modifyHead (started ++ ·)) := by
  rw [modifyHead_nil_append, List.modifyHead_cons, List.append_nil, dropLastEmpty_cons h]
  simp

/-- **The pieces of a text are added to what was read before it.** -/
theorem lines_foldl (cs : List Char) :
    (cs.foldl read ⟨ended, started, false⟩).lines =
      ended ++ dropLastEmpty ((pieces cs).modifyHead (started ++ ·)) := by
  fun_induction pieces cs generalizing ended started with
  | case1 =>
    by_cases h : started = []
    · simp [lines, dropLastEmpty, h]
    · simp [lines, dropLastEmpty, h]
  | case2 rest ih =>
    simp only [List.foldl_cons, read_return, read_lineFeed_afterReturn, ih]
    exact lines_foldl_pieces _ _ (pieces_ne_nil rest)
  | case3 rest hnext ih =>
    simp only [List.foldl_cons, read_return]
    rw [lines_foldl_afterReturn _ _ hnext, ih]
    exact lines_foldl_pieces _ _ (pieces_ne_nil rest)
  | case4 rest ih =>
    simp only [List.foldl_cons, read_lineFeed, ih]
    exact lines_foldl_pieces _ _ (pieces_ne_nil rest)
  | case5 c rest _ hcr hlf ih =>
    rw [List.foldl_cons, read_other _ _ (fun h => hcr h) (fun h => hlf h), ih]
    simp [Function.comp_def]

end LineReader

def readLines (cs : List Char) : List (List Char) := (cs.foldl LineReader.read .start).lines

/-- **The lines of a text are those that are read from it.** -/
theorem readLines_eq (cs : List Char) : readLines cs = lines cs := by
  rw [readLines, LineReader.start, LineReader.lines_foldl, modifyHead_nil_append, lines, List.nil_append]

/-! ## Joined lines -/

/-- A text is its own joined lines if it has no carriage return and no line feed at its end, and only then. -/
theorem joinLines_eq_self_iff {text : String} :
    joinLines text = text ↔ '\r' ∉ text.toList ∧ text.toList.getLast? ≠ some '\n' := by
  constructor
  · intro h
    have hreturn : '\r' ∉ text.toList := h ▸ not_mem_joinLines text
    rw [joinLines_of_not_mem hreturn, ← String.toList_inj, String.toList_ofList, dropLastBreak_eq_self_iff] at h
    exact ⟨hreturn, h⟩
  · rintro ⟨hreturn, hlast⟩
    rw [joinLines_of_not_mem hreturn, dropLastBreak_of_ne hlast, String.ofList_toList]

/-- **Joined lines are the lines that a reader finds, with single line feeds between them.** In other words, every line
end is written as a line feed and one line feed at the end is dropped. So no carriage return is left, the texts without
carriage returns and without a line feed at the end are left alone, and joining again changes nothing exactly if the
text does not end in an empty line. -/
theorem joinLines_readLines (text : String) :
    (joinLines text).toList = ['\n'].intercalate (readLines text.toList) ∧
      (joinLines text).toList = dropLastBreak (unifyBreaks text.toList) ∧
      '\r' ∉ (joinLines text).toList ∧
      (joinLines text = text ↔ '\r' ∉ text.toList ∧ text.toList.getLast? ≠ some '\n') ∧
      (joinLines (joinLines text) = joinLines text ↔ ¬EndsInEmptyLine text) := by
  refine ⟨?_, toList_joinLines text, not_mem_joinLines text, joinLines_eq_self_iff, joinLines_joinLines_eq_iff⟩
  rw [readLines_eq, joinLines, String.toList_ofList]

/-- Of `\r\r\n`, the first line end is the lone carriage return. -/
example : readLines "a\r\r\n\nb\n".toList = ["a".toList, [], [], "b".toList] := by decide

end TypedRows.Text
