import TypedRows.Cell.Conversion
import TypedRows.Text.Lines
/-!
# Reading large objects

A cell is read as a binary or as a character large object (`read_blob`, `read_clob`): what already is a buffer or
a text is used as it is, a handle is read in full and released, and any other cell is left alone. The handle is
released also if reading fails (`Cell.releasing`, the scope `scoped_lob`); only then is the content looked at.
-/

namespace TypedRows

namespace Traced

variable {ε α : Type}

/-- A call of a method of a handle, which fails if the handle has a failure to answer with. -/
def call (handle : HandleRef) (method : HandleMethod) (fault : Option Fault) : Traced Error Unit where
  calls := [⟨handle, method⟩]
  outcome :=
    match fault with
    | none => .ok ()
    | some fault => .error (.fault fault)

/-- The first computation and then the second, which is run also after a failure of the first. A failure
of the second replaces the outcome of the first. -/
def withCleanup (first : Traced ε α) (second : Traced ε Unit) : Traced ε α where
  calls := first.calls ++ second.calls
  outcome :=
    match second.outcome with
    | .ok () => first.outcome
    | .error e => .error e

def mapError (f : ε → ε) (computation : Traced ε α) : Traced ε α :=
  { computation with outcome := computation.outcome.mapError f }

end Traced

namespace Cell

def isHandle : Cell → Bool
  | .lob _ | .blob _ => true
  | _ => false

/-- The content of a handle. -/
def readHandle : Cell → Traced Error Cell
  | .lob h => do
    Traced.call (.driver h.id) .read h.readFault
    return h.content
  | .blob b => do
    Traced.call (.memory b) .read none
    match b.read with
    | .ok data => return .bytes .frozen data
    | .error e => throw (.value (.blob e))
  | cell => throw (.attribute cell.fullTypeName "read")

/-- Releases a handle, if it can be released. -/
def release : Cell → Traced Error Unit
  | .lob h =>
    match h.releaseMethod? with
    | some method => Traced.call (.driver h.id) method h.releaseFault
    | none => pure ()
  | .blob b => Traced.call (.memory b) .free none
  | _ => pure ()

/-- A computation after which the handle is released, whether it fails or not (`scoped_lob`). -/
def releasing {α : Type} (handle : Cell) (computation : Traced Error α) : Traced Error α :=
  -- The release runs inside the generator behind the scope. A failure of the computation is thrown into that
  -- generator, which gives it back as it was.
  computation.withCleanup (handle.release.mapError Error.leavingGenerator)

end Cell

/-- A failure of the transport as the failure to read a large object. -/
def Error.whileReading (sort : LobSort) : Error → Error
  | .fault cause => if cause.kind.isTransport then .resource sort cause else .fault cause
  | e => e

namespace Cell

/-- The whole content of a handle, which is released. -/
def readScoped (sort : LobSort) (handle : Cell) : Traced Error Cell :=
  (handle.releasing handle.readHandle).mapError (Error.whileReading sort)

/-- The bytes in the content of a binary large object. -/
def binaryContent (content : Cell) : Except Error Bytes := do
  let _ ← content.length
  content.toBytes

/-- The text in the content of a character large object, its lines joined. Empty content of any type is
the empty text. -/
def characterContent (content : Cell) : Except Error String := do
  if (← content.length) = 0 then return ""
  match content.relaxed with
  | .text s => return Text.joinLines s
  | .bytes .. => failType .bytesAsText
  | _ => failType (.notText content.fullTypeName)

/-- The cell read as a binary large object (`read_blob`). -/
def readBinary (cell : Cell) : Traced Error Cell :=
  match cell.relaxed with
  | .bytes _ data => return .bytes .frozen data
  | _ =>
    if cell.isHandle then do
      let content ← cell.readScoped .binary
      return .bytes .frozen (← (content.binaryContent : Except Error Bytes))
    else return cell

/-- The cell read as a character large object (`read_clob`). -/
def readCharacter (cell : Cell) : Traced Error Cell :=
  match cell.relaxed with
  | .text s => return .text (Text.joinLines s)
  | _ =>
    if cell.isHandle then do
      let content ← cell.readScoped .character
      return .text (← (content.characterContent : Except Error String))
    else return cell

end Cell

end TypedRows
