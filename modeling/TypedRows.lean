import TypedRows.Blob
import TypedRows.ByteStream
import TypedRows.Calendar.Date
import TypedRows.Calendar.IsoReader
import TypedRows.Calendar.IsoText
import TypedRows.Calendar.Proleptic
import TypedRows.Calendar.Time
import TypedRows.Cell
import TypedRows.Cell.Conversion
import TypedRows.Cell.Duration
import TypedRows.Cell.Equality
import TypedRows.Cell.Layout
import TypedRows.Cell.Literal
import TypedRows.Cell.LongInteger
import TypedRows.Cell.Number
import TypedRows.Cell.Order
import TypedRows.Cell.Single
import TypedRows.Cell.Storage
import TypedRows.Cell.TypeName
import TypedRows.Column.Description
import TypedRows.ColumnTypes
import TypedRows.Cursor
import TypedRows.Dialect
import TypedRows.Dialect.Resolution
import TypedRows.Entries
import TypedRows.Environment
import TypedRows.Error
import TypedRows.Frame
import TypedRows.Holder
import TypedRows.Kind
import TypedRows.Kind.Acceptance
import TypedRows.LargeObject
import TypedRows.LargeObject.Reading
import TypedRows.Normalization
import TypedRows.Number.Binary
import TypedRows.Number.ByteOrder
import TypedRows.Number.Decimal
import TypedRows.Number.Numeral
import TypedRows.Number.Quantity
import TypedRows.Number.Rounding
import TypedRows.Number.Shortest
import TypedRows.Options
import TypedRows.Override
import TypedRows.Override.Document
import TypedRows.Record
import TypedRows.Record.Builder
import TypedRows.Record.Encoding
import TypedRows.Record.Reading
import TypedRows.Record.Writing
import TypedRows.Schema
import TypedRows.Schema.Construction
import TypedRows.Schema.Inference
import TypedRows.Slice
import TypedRows.SqlType
import TypedRows.SqlType.Coercion
import TypedRows.SqlType.TypeName
import TypedRows.Statement
import TypedRows.Statement.FieldBinding
import TypedRows.Text.Blank
import TypedRows.Text.Caseless
import TypedRows.Text.CodePointRange
import TypedRows.Text.DecimalDigit
import TypedRows.Text.Letter
import TypedRows.Text.LetterCase
import TypedRows.Text.Lines
import TypedRows.Text.Listing
import TypedRows.Text.Pattern
import TypedRows.Text.PatternReader
import TypedRows.Text.Printable
import TypedRows.Text.Quoted
import TypedRows.Proofs.Blob.Window
import TypedRows.Proofs.Calendar.DayNumber
import TypedRows.Proofs.Calendar.EpochMillis
import TypedRows.Proofs.Calendar.IsoText
import TypedRows.Proofs.Calendar.Order
import TypedRows.Proofs.Cell.Admission
import TypedRows.Proofs.Cell.Handle
import TypedRows.Proofs.Cell.Instant
import TypedRows.Proofs.Cell.LongInteger
import TypedRows.Proofs.Cell.Normalization
import TypedRows.Proofs.Cell.PassThrough
import TypedRows.Proofs.Cell.StoredInstant
import TypedRows.Proofs.Column.Description
import TypedRows.Proofs.ColumnTypes.Forms
import TypedRows.Proofs.Cursor.Draining
import TypedRows.Proofs.Dialect.Resolution
import TypedRows.Proofs.Entries
import TypedRows.Proofs.Environment.Consultation
import TypedRows.Proofs.Frame.RoundTrip
import TypedRows.Proofs.Frame.Storing
import TypedRows.Proofs.Holder.Alignment
import TypedRows.Proofs.Number.ByteOrder
import TypedRows.Proofs.Number.Integer
import TypedRows.Proofs.Number.Narrowing
import TypedRows.Proofs.Number.Numeral
import TypedRows.Proofs.Number.Rounding
import TypedRows.Proofs.Override.History
import TypedRows.Proofs.Override.Loading
import TypedRows.Proofs.Override.Log
import TypedRows.Proofs.Override.Merging
import TypedRows.Proofs.Override.Reading
import TypedRows.Proofs.Override.Reloading
import TypedRows.Proofs.Record.Building
import TypedRows.Proofs.Record.Checking
import TypedRows.Proofs.Record.Construction
import TypedRows.Proofs.Record.Copy
import TypedRows.Proofs.Record.Decoding
import TypedRows.Proofs.Record.Dumping
import TypedRows.Proofs.Record.Equality
import TypedRows.Proofs.Record.FixedPoint
import TypedRows.Proofs.Record.Handles
import TypedRows.Proofs.Record.RoundTrip
import TypedRows.Proofs.Record.RowForms
import TypedRows.Proofs.Record.SinglePrecision
import TypedRows.Proofs.Schema.Acceptance
import TypedRows.Proofs.Schema.Inference
import TypedRows.Proofs.SqlType.Readings
import TypedRows.Proofs.SqlType.TypeName
import TypedRows.Proofs.Statement.Binding
import TypedRows.Proofs.Statement.Execution
import TypedRows.Proofs.Statement.Log
import TypedRows.Proofs.Statement.TemporalText
import TypedRows.Proofs.Statement.Writing
import TypedRows.Proofs.Text.LetterCase
import TypedRows.Proofs.Text.LineReader
import TypedRows.Proofs.Text.Lines
import TypedRows.Proofs.Traversal
