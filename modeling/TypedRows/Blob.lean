import TypedRows.Text.Quoted
/-!
# Binary large objects in memory

A `Blob` holds bytes that a statement binds to a large object column. Positions count from 1. Once
freed it refuses to be read (`Blob.check`, the guard of `length`, `get_bytes` and `read`), but its bytes
stay available to the statement that holds it.
-/

namespace TypedRows

abbrev Bytes := List UInt8

structure Blob where
  data : Bytes
  freed : Bool := false
deriving DecidableEq, Repr

/-- Why a large object refuses to be read. -/
inductive BlobError where
  | freed
  | position (given : Int)
deriving DecidableEq, Repr

namespace BlobError

def message : BlobError → String
  | .freed => "Blob has been freed"
  | .position given => "Blob position must be >= 1, got " ++ toString given

end BlobError

namespace Blob

/-- Refuses a freed object. -/
def check (b : Blob) : Except BlobError Unit :=
  if b.freed then .error .freed else .ok ()

def length (b : Blob) : Except BlobError Nat := do
  b.check
  return b.data.length

def read (b : Blob) : Except BlobError Bytes := do
  b.check
  return b.data

/-- The end of a window: a negative one counts back from the end of the data. -/
def windowEnd (size : Nat) (stop : Int) : Nat :=
  if stop < 0 then (size + stop).toNat else stop.toNat

/-- The bytes from a position on, at most `count` of them (`get_bytes`). -/
def getBytes (b : Blob) (position count : Int) : Except BlobError Bytes := do
  b.check
  if position < 1 then throw (.position position)
  let start := (position - 1).toNat
  return (b.data.take (windowEnd b.data.length (position - 1 + count))).drop start

/-- Refuses reading from now on. -/
def free (b : Blob) : Blob := { b with freed := true }

def text (b : Blob) : String := "Blob(" ++ toString b.data.length ++ " bytes)"

end Blob

end TypedRows
