import SheetWire.Cell
import SheetWire.Command.Arguments
import SheetWire.Command.Files
import SheetWire.Command.Run
import SheetWire.Definition.Field
import SheetWire.Definition.Parser
import SheetWire.Definition.Scan
import SheetWire.Definition.Token
import SheetWire.Definition.Uniqueness
import SheetWire.Error
import SheetWire.Json.Basic
import SheetWire.Json.Numeral
import SheetWire.Json.Printer
import SheetWire.Json.Reader
import SheetWire.Main
import SheetWire.Naming.English
import SheetWire.Naming.Inflection
import SheetWire.Number.Binary
import SheetWire.Number.Digits
import SheetWire.Number.Layout
import SheetWire.Number.Scientific
import SheetWire.Number.Shortest
import SheetWire.Proofs.BoundedRecursion
import SheetWire.Proofs.Workspace.Nodes
import SheetWire.Row.Decoding
import SheetWire.Row.Encoding
import SheetWire.Row.Width
import SheetWire.Scheme
import SheetWire.Slot.Reader
import SheetWire.Slot.Writer
import SheetWire.Table
import SheetWire.Text.Blank
import SheetWire.Text.Case
import SheetWire.Text.Hidden
import SheetWire.Text.Parts
import SheetWire.Text.Quoted
import SheetWire.Text.Ranges
import SheetWire.Text.Sentinel
import SheetWire.Text.Word
import SheetWire.Typed
import SheetWire.Value
import SheetWire.Workbook
import SheetWire.Workspace.Basic
import SheetWire.Workspace.Node
import SheetWire.Workspace.Resolution
import SheetWire.Workspace.Session
import SheetWire.Proofs.Definition.Filled
import SheetWire.Proofs.Row.Portions
import SheetWire.Proofs.Outcome
import SheetWire.Proofs.Row.Widths
import SheetWire.Proofs.Loops
import SheetWire.Proofs.Row.Padding
import SheetWire.Proofs.Row.Blanks
import SheetWire.Proofs.Row.EncodingEnds
import SheetWire.Proofs.Number.Decimal
import SheetWire.Proofs.Slot.Readings
import SheetWire.Proofs.Slot.SingleSlots
import SheetWire.Proofs.Row.Openings
import SheetWire.Proofs.Row.DecodingEnds
import SheetWire.Proofs.Row.DirectReading
import SheetWire.Proofs.Row.Answers
import SheetWire.Proofs.Row.Alignment
import SheetWire.Proofs.Row.OwnCells
import SheetWire.Proofs.Row.WireForms
import SheetWire.Proofs.Definition.Grammar
import SheetWire.Proofs.Definition.Scanning
import SheetWire.Proofs.Definition.Parsing
import SheetWire.Proofs.Definition.Acceptance
import SheetWire.Proofs.Workspace.Index
import SheetWire.Proofs.Workspace.Resolving
import SheetWire.Proofs.Workspace.Sessions
import SheetWire.Proofs.Row.Likeness
import SheetWire.Proofs.Row.Inlining
import SheetWire.Proofs.Text.Bytes
import SheetWire.Proofs.Table.Order
import SheetWire.Proofs.Workspace.Places
import SheetWire.Proofs.Workspace.Renumbering
import SheetWire.Proofs.Workspace.Restriction
import SheetWire.Proofs.Table.Locality
import SheetWire.Proofs.Typed.Maps
import SheetWire.Proofs.Typed.Agreement
import SheetWire.Proofs.Row.Unfolding
import SheetWire.Proofs.Scheme.WellFormed
import SheetWire.Proofs.Row.Lines
import SheetWire.Proofs.Table.Packing
import SheetWire.Proofs.Text.Marking
import SheetWire.Proofs.Row.RoundTrip
import SheetWire.Proofs.Row.Refusals
import SheetWire.Proofs.Row.Blame
import SheetWire.Proofs.Text.Replacing
import SheetWire.Proofs.Definition.Partition
import SheetWire.Proofs.Slot.Writing
import SheetWire.Proofs.Definition.Viability
import SheetWire.Proofs.Definition.Rejection
import SheetWire.Proofs.Text.Pieces
import SheetWire.Proofs.Slot.Progress
import SheetWire.Proofs.Text.Lowering
import SheetWire.Proofs.Naming.LastWord
import SheetWire.Proofs.Definition.TypeNames
