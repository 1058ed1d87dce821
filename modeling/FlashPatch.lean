import FlashPatch.Bytes.Dump
import FlashPatch.Bytes.Excerpt
import FlashPatch.Bytes.Hex
import FlashPatch.Bytes.LittleEndian
import FlashPatch.Config.Basic
import FlashPatch.Config.Json
import FlashPatch.Decimal.Binary64
import FlashPatch.Decimal.Shortest
import FlashPatch.Error
import FlashPatch.Event
import FlashPatch.Header.Basic
import FlashPatch.Header.Decoding
import FlashPatch.Header.Encoding
import FlashPatch.Header.Error
import FlashPatch.Header.Format
import FlashPatch.Header.SizeField
import FlashPatch.Image
import FlashPatch.IntLiteral
import FlashPatch.Json.Number
import FlashPatch.Json.StringLiteral
import FlashPatch.Json.Token
import FlashPatch.Json.Tree
import FlashPatch.Json.Writer
import FlashPatch.Numeral
import FlashPatch.Partition.Capacity
import FlashPatch.Partition.State
import FlashPatch.Preparation
import FlashPatch.Record.Basic
import FlashPatch.Record.Error
import FlashPatch.Record.Field
import FlashPatch.Report.Basic
import FlashPatch.Report.Json
import FlashPatch.Storage.Device
import FlashPatch.Storage.Directory
import FlashPatch.Storage.Error
import FlashPatch.Storage.FileSystem
import FlashPatch.Storage.Path
import FlashPatch.Text.Blank
import FlashPatch.Text.Quoted
import FlashPatch.Text.Ranges
import FlashPatch.Text.Visible
import FlashPatch.Workspace
import FlashPatch.Proofs.Bytes.LittleEndian
import FlashPatch.Proofs.Config.Json
import FlashPatch.Proofs.Config.Size
import FlashPatch.Proofs.Decimal.Binary64
import FlashPatch.Proofs.Header.Acceptance
import FlashPatch.Proofs.Header.Digits
import FlashPatch.Proofs.Header.EndOffset
import FlashPatch.Proofs.Header.ForeignFormat
import FlashPatch.Proofs.Header.ForeignSize
import FlashPatch.Proofs.Header.Layout
import FlashPatch.Proofs.Header.NormalForm
import FlashPatch.Proofs.Header.OtherRequest
import FlashPatch.Proofs.Header.RoundTrip
import FlashPatch.Proofs.Header.SizeField
import FlashPatch.Proofs.Image.Application
import FlashPatch.Proofs.Image.Effect
import FlashPatch.Proofs.Image.Marking
import FlashPatch.Proofs.Image.Payload
import FlashPatch.Proofs.Image.Strata
import FlashPatch.Proofs.IntLiteral
import FlashPatch.Proofs.Json.Document
import FlashPatch.Proofs.Json.Grammar
import FlashPatch.Proofs.Json.Number
import FlashPatch.Proofs.Json.StringLiteral
import FlashPatch.Proofs.Json.Writer
import FlashPatch.Proofs.Numeral
import FlashPatch.Proofs.Numeral.Positional
import FlashPatch.Proofs.Partition.Capacity
import FlashPatch.Proofs.Partition.State
import FlashPatch.Proofs.Preparation.Fault
import FlashPatch.Proofs.Preparation.Readable
import FlashPatch.Proofs.Preparation.Run
import FlashPatch.Proofs.Preparation.Writing
import FlashPatch.Proofs.Record.Basic
import FlashPatch.Proofs.Record.Field
import FlashPatch.Proofs.Report.Json
import FlashPatch.Proofs.Session
import FlashPatch.Proofs.Storage.Call
import FlashPatch.Proofs.Storage.Directory
import FlashPatch.Proofs.Storage.FileSystem
import FlashPatch.Proofs.Storage.Rewrite
import FlashPatch.Proofs.Storage.Transfer
import FlashPatch.Proofs.Task
import FlashPatch.Proofs.Text.Quoted
import FlashPatch.Proofs.Workspace.Effect
import FlashPatch.Proofs.Workspace.Frame
import FlashPatch.Proofs.Workspace.Run
import FlashPatch.Proofs.Bytes.Excerpt
import FlashPatch.Proofs.Bytes.Dump
import FlashPatch.Proofs.Preparation.Events
import FlashPatch.Proofs.Checked
