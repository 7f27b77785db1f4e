import ProofWire.Artifact.Basic
import ProofWire.Artifact.Decode
import ProofWire.Artifact.Encode
import ProofWire.Artifact.Point
import ProofWire.Binary64.Basic
import ProofWire.Binary64.Nearest
import ProofWire.Binary64.Pointed
import ProofWire.Binary64.Shortest
import ProofWire.Command.Compare
import ProofWire.Command.Console
import ProofWire.Command.Encode
import ProofWire.Command.Host
import ProofWire.CommandLine.Arguments
import ProofWire.CommandLine.Grammar
import ProofWire.CommandLine.Token
import ProofWire.Comparison.Basic
import ProofWire.Comparison.Report
import ProofWire.Disk.Basic
import ProofWire.Disk.Path
import ProofWire.Failure.Basic
import ProofWire.Fault.Basic
import ProofWire.Fault.Cause
import ProofWire.Field.Element
import ProofWire.Field.Modulus
import ProofWire.Hash.Basic
import ProofWire.Hash.Keccak
import ProofWire.Hash.Sha256
import ProofWire.Json.Document
import ProofWire.Json.Fault
import ProofWire.Json.Reader
import ProofWire.Json.Token
import ProofWire.Layout.Basic
import ProofWire.Literal.Basic
import ProofWire.Literal.Classify
import ProofWire.Log.Directive
import ProofWire.Log.Format
import ProofWire.Log.Handler
import ProofWire.Log.Name
import ProofWire.Log.Note
import ProofWire.Log.Record
import ProofWire.Log.Registry
import ProofWire.Log.Severity
import ProofWire.Log.State
import ProofWire.Log.Verb
import ProofWire.Main
import ProofWire.Proofs.Artifact.Acceptance
import ProofWire.Proofs.Artifact.Checked
import ProofWire.Proofs.Artifact.CoordinateFault
import ProofWire.Proofs.Artifact.Documented
import ProofWire.Proofs.Artifact.Encoding
import ProofWire.Proofs.Artifact.InfinityLog
import ProofWire.Proofs.Artifact.Point
import ProofWire.Proofs.Artifact.PointFault
import ProofWire.Proofs.Artifact.ProofRoundTrip
import ProofWire.Proofs.Artifact.PublicRoundTrip
import ProofWire.Proofs.Artifact.Refusal
import ProofWire.Proofs.Artifact.Signal
import ProofWire.Proofs.Artifact.Slices
import ProofWire.Proofs.Artifact.Steps
import ProofWire.Proofs.Binary64.Exact
import ProofWire.Proofs.Command.Agreement
import ProofWire.Proofs.Command.Compare
import ProofWire.Proofs.Command.Console
import ProofWire.Proofs.Command.DebugLog
import ProofWire.Proofs.Command.Encode
import ProofWire.Proofs.Command.Ending
import ProofWire.Proofs.Command.Session
import ProofWire.Proofs.Command.Setup
import ProofWire.Proofs.Comparison.Divergence
import ProofWire.Proofs.Comparison.FirstDifference
import ProofWire.Proofs.Comparison.Match
import ProofWire.Proofs.Comparison.Report
import ProofWire.Proofs.Comparison.Steps
import ProofWire.Proofs.Disk.Flaw
import ProofWire.Proofs.Fault.Mention
import ProofWire.Proofs.Json.Spelling
import ProofWire.Proofs.Layout.Artifact
import ProofWire.Proofs.Layout.Component
import ProofWire.Proofs.Layout.Description
import ProofWire.Proofs.Layout.Location
import ProofWire.Proofs.Layout.Name
import ProofWire.Proofs.Layout.Partition
import ProofWire.Proofs.Layout.Perturbation
import ProofWire.Proofs.Literal.Cause
import ProofWire.Proofs.Literal.Construction
import ProofWire.Proofs.Literal.Grammar
import ProofWire.Proofs.Literal.Reading
import ProofWire.Proofs.Literal.Writable
import ProofWire.Proofs.Log.Attachment
import ProofWire.Proofs.Log.Drain
import ProofWire.Proofs.Log.Format
import ProofWire.Proofs.Log.Listener
import ProofWire.Proofs.Log.Registry
import ProofWire.Proofs.Log.Run
import ProofWire.Proofs.Log.Setup
import ProofWire.Proofs.Log.Stream
import ProofWire.Proofs.Outcome
import ProofWire.Proofs.Settings.Flaw
import ProofWire.Proofs.Settings.Key
import ProofWire.Proofs.Settings.Merge
import ProofWire.Proofs.Text.Blank
import ProofWire.Proofs.Text.Hex
import ProofWire.Proofs.Text.HexForm
import ProofWire.Proofs.Text.Numeral
import ProofWire.Proofs.Text.Utf8
import ProofWire.Proofs.Value.Shown
import ProofWire.Proofs.Word
import ProofWire.Proofs.Word.Checked
import ProofWire.Proofs.Word.Exact
import ProofWire.Settings.Basic
import ProofWire.Settings.Section
import ProofWire.Text.Blank
import ProofWire.Text.Hex
import ProofWire.Text.Numeral
import ProofWire.Text.Printable
import ProofWire.Text.Quoted
import ProofWire.Text.Range
import ProofWire.Text.Upper
import ProofWire.Text.Utf8
import ProofWire.Text.Wordlike
import ProofWire.Trace
import ProofWire.Value.Basic
import ProofWire.Value.Printer
import ProofWire.Word.Basic
