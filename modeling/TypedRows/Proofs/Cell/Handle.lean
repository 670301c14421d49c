import TypedRows.Normalization
/-!
# Handles in a column

What a handle does when it is read: it is called for its content once and then released once, whether the read
succeeds or not (`Handle.visit`), and a failure of the release replaces one of the read (`Handle.failure?`). The
content is looked at only after that.

The release runs inside a generator, the read does not: a handle that signals the end of an iteration is passed on
as it is when it is read, and comes out as another failure when it is released.

Main statements: `Cell.normalize_of_handle` for a handle in a large object column, and `Cell.calls_normalize` for
every cell in a column of any type.
-/

namespace TypedRows

/-! ## Traces -/

namespace Traced

variable {ε α β : Type}

theorem bind_of_ok {first : Traced ε α} {next : α → Traced ε β} {a : α} (h : first.outcome = .ok a) :
    (first >>= next) = ⟨first.calls ++ (next a).calls, (next a).outcome⟩ := by
  show Traced.bind first next = _
  simp only [Traced.bind, h]

theorem bind_of_error {first : Traced ε α} {next : α → Traced ε β} {e : ε} (h : first.outcome = .error e) :
    (first >>= next) = ⟨first.calls, .error e⟩ := by
  show Traced.bind first next = _
  simp only [Traced.bind, h]

theorem lift_bind_of_ok {x : Except ε α} {next : α → Traced ε β} {a : α} (h : x = .ok a) :
    ((liftM x : Traced ε α) >>= next) = next a := by
  rw [bind_of_ok (a := a) h]
  rfl

theorem lift_bind_of_error {x : Except ε α} {next : α → Traced ε β} {e : ε} (h : x = .error e) :
    ((liftM x : Traced ε α) >>= next) = ⟨[], .error e⟩ :=
  bind_of_error h

end Traced

/-! ## What a handle does -/

/-- A handle as a row meets it: what it answers to a read and to its release. -/
structure Handle where
  ref : HandleRef
  content : Cell
  readFailure : Option Error
  /-- The method that releases it, if it has one. -/
  release? : Option HandleMethod
  releaseFailure : Option Error

namespace Handle

/-- One read and then the release. -/
def visit (h : Handle) : List HandleCall := ⟨h.ref, .read⟩ :: (h.release?.map fun method => ⟨h.ref, method⟩).toList

/-- The failure that is left of a visit: a failure of the release replaces one of the read. The release is made
inside a generator. -/
def failure? (h : Handle) : Option Error :=
  match h.release?, h.releaseFailure with
  | some _, some e => some e.leavingGenerator
  | _, _ => h.readFailure

theorem failure?_eq_none {h : Handle} (hread : h.readFailure = none)
    (hrelease : h.release? = none ∨ h.releaseFailure = none) : h.failure? = none := by
  unfold failure?
  split
  · rename_i hmethod hfailure
    rcases hrelease with hnone | hnone
    · cases hnone.symm.trans hmethod
    · cases hnone.symm.trans hfailure
  · exact hread

end Handle

/-- The cell as a handle. A freed large object in memory refuses to be read. -/
def Cell.handle? : Cell → Option Handle
  | .lob h => some {
      ref := .driver h.id
      content := h.content
      readFailure := h.readFault.map .fault
      release? :=
        if .free ∈ h.releases then some .free
        else if .close ∈ h.releases then some .close
        else none
      releaseFailure := h.releaseFault.map .fault }
  | .blob b => some {
      ref := .memory b
      content := .bytes .frozen b.data
      readFailure := if b.freed then some (.value (.blob .freed)) else none
      release? := some .free
      releaseFailure := none }
  | _ => none

def SqlType.lobSort? : SqlType → Option LobSort
  | .blob => some .binary
  | .clob | .nclob => some .character
  | _ => none

/-- The value in the content of a large object. -/
def LobSort.decode (sort : LobSort) (content : Cell) : Except Error Cell :=
  match sort with
  | .binary => content.binaryContent.map (.bytes .frozen)
  | .character => content.characterContent.map .text

/-- The calls that a cell in a column of a type is to receive. -/
def handleCalls (type : SqlType) (cell : Cell) : List HandleCall :=
  match type.lobSort?, cell.handle? with
  | some _, some h => h.visit
  | _, _ => []

namespace Cell

theorem normalize_of_isHandle {type : SqlType} {cell : Cell} (h : cell.isHandle = true) :
    cell.normalize type = cell.normalizePlain type := by
  cases cell <;> first | (cases h; done) | rfl

theorem readCharacter_of_isHandle {cell : Cell} (h : cell.isHandle = true) :
    cell.readCharacter = (do
      let content ← cell.readScoped .character
      return .text (← (content.characterContent : Except Error String))) := by
  cases cell <;> first | (cases h; done) | rfl

theorem readBinary_of_isHandle {cell : Cell} (h : cell.isHandle = true) :
    cell.readBinary = (do
      let content ← cell.readScoped .binary
      return .bytes .frozen (← (content.binaryContent : Except Error Bytes))) := by
  cases cell <;> first | (cases h; done) | rfl

theorem isHandle_of_handle? {cell : Cell} {h : Handle} (hh : cell.handle? = some h) : cell.isHandle = true := by
  cases cell with
  | lob | blob => rfl
  | _ => cases hh

theorem isHandle_plainInstant (unit : TimeUnit) (count : Int) : (plainInstant unit count).isHandle = false := by
  unfold plainInstant
  dsimp only
  split
  · split
    · rfl
    · split <;> rfl
  · split
    · rfl
    · split <;> rfl

theorem isHandle_unboxed_of_handle? {cell : Cell} (hh : cell.handle? = none) : cell.unboxed.isHandle = false := by
  cases cell with
  | boxed b =>
    cases b with
    | instant unit count =>
      cases count with
      | none => rfl
      | some count => exact isHandle_plainInstant unit count
    | _ => rfl
  | lob | blob => cases hh
  | _ => rfl

theorem releaseMethod?_eq (h : LobHandle Cell) : h.releaseMethod? =
    if .free ∈ h.releases then some .free else if .close ∈ h.releases then some .close else none := by
  simp only [LobHandle.releaseMethod?, List.contains_iff_mem]

theorem readHandle_of_handle {cell : Cell} {h : Handle} (hh : cell.handle? = some h) :
    cell.readHandle =
      ⟨[⟨h.ref, .read⟩], match h.readFailure with
        | some e => .error e
        | none => .ok h.content⟩ := by
  cases cell with
  | lob l =>
    cases hh
    rw [readHandle]
    cases l.readFault <;> rfl
  | blob b =>
    cases hh
    obtain ⟨data, freed⟩ := b
    cases freed <;> rfl
  | _ => cases hh

theorem release_of_handle {cell : Cell} {h : Handle} (hh : cell.handle? = some h) :
    cell.release =
      ⟨(h.release?.map fun method => ⟨h.ref, method⟩).toList, match h.release?, h.releaseFailure with
        | some _, some e => .error e
        | _, _ => .ok ()⟩ := by
  cases cell with
  | lob l =>
    cases hh
    simp only [release, ← releaseMethod?_eq]
    cases l.releaseMethod? with
    | none => rfl
    | some method => cases l.releaseFault <;> rfl
  | blob b =>
    cases hh
    rfl
  | _ => cases hh

/-- **A visit of a handle**: it is read and released, and then a failure is reported. -/
theorem readScoped_of_handle {cell : Cell} {h : Handle} (hh : cell.handle? = some h) (sort : LobSort) :
    cell.readScoped sort =
      ⟨h.visit, match h.failure? with
        | some e => .error (e.whileReading sort)
        | none => .ok h.content⟩ := by
  rw [readScoped, releasing, readHandle_of_handle hh, release_of_handle hh]
  simp only [Traced.withCleanup, Traced.mapError, Handle.visit, Handle.failure?, List.singleton_append]
  cases h.release? with
  | none => cases h.readFailure <;> rfl
  | some method =>
    cases h.releaseFailure with
    | none => cases h.readFailure <;> rfl
    | some e => rfl

variable {type : SqlType} {sort : LobSort} {cell : Cell}

theorem normalize_eq_readScoped (htype : type.lobSort? = some sort) (hhandle : cell.isHandle = true) :
    cell.normalize type = (cell.readScoped sort >>= fun content => liftM (sort.decode content)) := by
  rw [normalize_of_isHandle hhandle]
  have hbinary : cell.readBinary =
      (cell.readScoped .binary >>= fun content => liftM (LobSort.binary.decode content)) := by
    rw [readBinary_of_isHandle hhandle]
    congr 1
    funext content
    rw [LobSort.decode]
    cases content.binaryContent <;> rfl
  have hcharacter : cell.readCharacter =
      (cell.readScoped .character >>= fun content => liftM (LobSort.character.decode content)) := by
    rw [readCharacter_of_isHandle hhandle]
    congr 1
    funext content
    rw [LobSort.decode]
    cases content.characterContent <;> rfl
  cases type with
  | blob =>
    cases htype
    exact hbinary
  | clob | nclob =>
    cases htype
    exact hcharacter
  | _ => cases htype

/-- The content is looked at only after the visit, and only if the visit left no failure. -/
theorem normalize_of_handle {h : Handle} (htype : type.lobSort? = some sort) (hh : cell.handle? = some h) :
    cell.normalize type =
      ⟨h.visit, match h.failure? with
        | some e => .error (e.whileReading sort)
        | none => sort.decode h.content⟩ := by
  have hscoped := readScoped_of_handle hh sort
  rw [normalize_eq_readScoped htype (isHandle_of_handle? hh), hscoped]
  cases h.failure? with
  | some e => rw [Traced.bind_of_error rfl]
  | none =>
    rw [Traced.bind_of_ok rfl]
    show Traced.mk (h.visit ++ []) _ = _
    rw [List.append_nil]
    rfl

/-- A column of no large objects calls nothing. -/
theorem calls_normalize_of_lobSort? (htype : type.lobSort? = none) : (cell.normalize type).calls = [] := by
  unfold normalize
  split
  · rfl
  · cases type with
    | blob | clob | nclob => cases htype
    | _ => rfl

theorem calls_readBinary_of_not_isHandle (h : cell.isHandle = false) : cell.readBinary.calls = [] := by
  unfold readBinary
  split
  · rfl
  · rw [if_neg (by simp [h])]
    rfl

theorem calls_readCharacter_of_not_isHandle (h : cell.isHandle = false) : cell.readCharacter.calls = [] := by
  unfold readCharacter
  split
  · rfl
  · rw [if_neg (by simp [h])]
    rfl

/-- A cell that is no handle is not called. -/
theorem calls_normalize_of_handle? (hh : cell.handle? = none) : (cell.normalize type).calls = [] := by
  have hhandle := isHandle_unboxed_of_handle? hh
  unfold normalize
  split
  · rfl
  · cases type with
    | blob => exact calls_readBinary_of_not_isHandle hhandle
    | clob | nclob => exact calls_readCharacter_of_not_isHandle hhandle
    | _ => rfl

end Cell

end TypedRows
