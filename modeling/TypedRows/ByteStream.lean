import TypedRows.Blob
/-!
# Streams of bytes

A stream in memory has a content and a position. Bytes are written at the position, which moves behind them: they
overwrite what stands there, and are appended only if the stream is at its end.
-/

namespace TypedRows

/-- A stream in memory. The position may lie behind the end of the content. -/
structure ByteStream where
  content : Bytes
  position : Nat
deriving DecidableEq, Repr

namespace ByteStream

def empty : ByteStream := ⟨[], 0⟩

/-- What stands before the position. Behind the end of the content these are zeros. -/
def before (s : ByteStream) : Bytes :=
  s.content.take s.position ++ List.replicate (s.position - s.content.length) 0

/-- The stream after bytes were written at its position. -/
def write (s : ByteStream) (data : Bytes) : ByteStream :=
  -- No bytes leave the stream alone, also behind the end of the content: there are no zeros without bytes.
  if data = [] then s
  else ⟨s.before ++ data ++ s.content.drop (s.position + data.length), s.position + data.length⟩

end ByteStream

end TypedRows
