import TableScript.CommandLine.Folder
import TableScript.Main
import TableScript.Model.Edit
import TableScript.Read.Cursor
import TableScript.Session
import TableScript.Tour
import TableScript.Text.Control
import TableScript.Proofs.Ddl.Constraint
import TableScript.Proofs.LineKind.Dispatch
import TableScript.Proofs.Model.Declaration
import TableScript.Proofs.Quotation
import TableScript.Proofs.Read.CommentedColumn
import TableScript.Proofs.Read.Completion
import TableScript.Proofs.Read.Content
import TableScript.Proofs.Read.Finding
import TableScript.Proofs.Read.ForeignKey
import TableScript.Proofs.Read.Interrupted
import TableScript.Proofs.Read.Kept
import TableScript.Proofs.Read.Refused.Script
import TableScript.Proofs.Read.RepeatedTable
import TableScript.Proofs.Read.Resolution
import TableScript.Proofs.Read.SkippedBlock
import TableScript.Proofs.Read.Token
import TableScript.Proofs.Read.Walk.Tiling
import TableScript.Proofs.Read.WellFormed
import TableScript.Proofs.ReferenceGraph.Cycles
import TableScript.Proofs.ReferenceGraph.Faithful
import TableScript.Proofs.RoundTrip.Fidelity
import TableScript.Proofs.RoundTrip.Formatting
import TableScript.Proofs.RoundTrip.Layout
import TableScript.Proofs.RoundTrip.Values
import TableScript.Proofs.Setting.NormalForm
