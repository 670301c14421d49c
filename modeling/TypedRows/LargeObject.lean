import TypedRows.Blob
/-!
# Handles of large objects

A driver gives a large object as a handle that is read once and then released; a large object in memory can
stand in its place. `Traced` is a computation that touches handles: besides its outcome it gives the calls it
made, in order.

A handle fails in its own way, also with the signal by which an iterator says that it is at its end. That signal
does not pass the border of a generator (`Fault.leavingGenerator`), and two operations of the library are
generators: the scope that releases a handle (`scoped_lob`) and the iteration over a result (`iter_records`).
-/

namespace TypedRows

/-- The kinds of failure that come from outside the library. -/
inductive FaultKind where
  /-- Any failure of the system that is of no kind of its own. -/
  | system
  | timeout
  | connection
  /-- Any failure of the driver that is of no kind of its own. -/
  | driver
  | driverOperation
  /-- Any other failure that is of no kind of its own. -/
  | runtime
  | value
  | key
  /-- The signal of an iterator that is at its end. -/
  | stopIteration
deriving DecidableEq, Repr

/-- The failure comes from the transport of data (`LobReadError`): the system or the database driver. -/
def FaultKind.isTransport : FaultKind → Bool
  | .system | .timeout | .connection | .driver | .driverOperation => true
  | .runtime | .value | .key | .stopIteration => false

structure Fault where
  kind : FaultKind
  text : String
deriving DecidableEq, Repr

/-- What becomes of the end of an iteration inside a generator, where it would end the generator itself. -/
def Fault.generatorStopped : Fault := ⟨.runtime, "generator raised StopIteration"⟩

/-- The failure as it leaves a generator in which it was raised. -/
def Fault.leavingGenerator (fault : Fault) : Fault :=
  match fault.kind with
  | .stopIteration => generatorStopped
  | _ => fault

inductive HandleMethod where
  | read
  | free
  | close
deriving DecidableEq, Repr

inductive Release where
  | free
  | close
deriving DecidableEq, Repr

/-- A handle of a large object. It answers a read with its content or with a failure. -/
structure LobHandle (α : Type) where
  id : Nat
  content : α
  readFault : Option Fault
  /-- The release methods it has. -/
  releases : List Release
  releaseFault : Option Fault
deriving Repr

/-- The method by which a handle is released: `free` if it has it, otherwise `close` if it has that. -/
def LobHandle.releaseMethod? {α : Type} (h : LobHandle α) : Option HandleMethod :=
  if h.releases.contains .free then some .free
  else if h.releases.contains .close then some .close
  else none

/-- What is called: a handle of the driver, by its number, or a large object in memory. -/
inductive HandleRef where
  | driver (number : Nat)
  | memory (b : Blob)
deriving DecidableEq, Repr

/-- A call of a method on a handle. -/
structure HandleCall where
  handle : HandleRef
  method : HandleMethod
deriving DecidableEq, Repr

/-- A computation that calls handles: the calls it made and its outcome. -/
structure Traced (ε α : Type) where
  calls : List HandleCall
  outcome : Except ε α

namespace Traced

variable {ε α β : Type}

def ofExcept (outcome : Except ε α) : Traced ε α := ⟨[], outcome⟩

/-- The calls of the second computation follow those of the first; it is not run after a failure. -/
def bind (first : Traced ε α) (next : α → Traced ε β) : Traced ε β :=
  match first.outcome with
  | .error e => ⟨first.calls, .error e⟩
  | .ok a => ⟨first.calls ++ (next a).calls, (next a).outcome⟩

instance : Monad (Traced ε) where
  pure a := ⟨[], .ok a⟩
  bind := bind

instance : MonadExceptOf ε (Traced ε) where
  throw e := ⟨[], .error e⟩
  tryCatch first handler :=
    match first.outcome with
    | .ok a => ⟨first.calls, .ok a⟩
    | .error e => ⟨first.calls ++ (handler e).calls, (handler e).outcome⟩

instance : MonadLift (Except ε) (Traced ε) := ⟨ofExcept⟩

end Traced

end TypedRows
