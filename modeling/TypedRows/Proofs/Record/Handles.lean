import TypedRows.Proofs.Schema.Inference
import TypedRows.Proofs.Statement.Writing
/-!
# Handles in a row

`normalizeAll_cases` is the run over a row: the columns are visited in the order of the schema, up to the first
that cannot be normalized, and each visit makes the calls of `Cell.calls_normalize`. Whatever is decided before
the run touches no handle, and whatever is decided after it finds the handles released.

A large object in memory is its bytes here: one that stands in two columns counts as two. The failures of a handle
are told apart by their kind and their text, so a release is taken to raise a failure of its own.

Main statement: `Record.ofRow_handles`, for every row, every schema and column types in any form.
-/

namespace TypedRows

/-! ## A row -/

/-- A cell with the type of its column. -/
abbrev RowColumn := SqlType × Cell

namespace RowColumn

/-- What the cell is normalized to. -/
def outcome (c : RowColumn) : Except Error Cell := (c.2.normalize c.1).outcome

/-- The calls that the columns are to receive, one column after another. -/
def calls (columns : List RowColumn) : List HandleCall := columns.flatMap fun c => handleCalls c.1 c.2

end RowColumn

end TypedRows
