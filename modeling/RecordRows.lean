import RecordRows.Main
import RecordRows.Proofs.Calendar.RoundTrip
import RecordRows.Proofs.Calendar.TimeOfDay
import RecordRows.Proofs.ColumnType.RoundTrip
import RecordRows.Proofs.Command.Convert
import RecordRows.Proofs.Command.ListColumn
import RecordRows.Proofs.Json.Cell
import RecordRows.Proofs.Json.Doubles
import RecordRows.Proofs.Json.Inference
import RecordRows.Proofs.Json.Members
import RecordRows.Proofs.Json.Sorted
import RecordRows.Proofs.Positions.Invariant
import RecordRows.Proofs.Positions.Order
import RecordRows.Proofs.Positions.Spelling
import RecordRows.Proofs.Record.Outline
import RecordRows.Proofs.Row.Millis
import RecordRows.Proofs.Row.Projection
import RecordRows.Proofs.Row.Typed
import RecordRows.Proofs.Session.Columns
import RecordRows.Proofs.Session.Exact
import RecordRows.Proofs.Session.Namesakes
import RecordRows.Proofs.Session.ReadBack
import RecordRows.Proofs.Session.Run
import RecordRows.Proofs.Session.Spelling
import RecordRows.Proofs.Session.Unmapped
import RecordRows.Proofs.Table.ColumnNames
import RecordRows.Proofs.Value.Bytes
import RecordRows.Proofs.Value.Narrowing
import RecordRows.Proofs.Value.ReadBack
