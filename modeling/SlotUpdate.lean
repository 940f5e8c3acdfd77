import SlotUpdate.Text.Utf8
import SlotUpdate.Text.Blank
import SlotUpdate.Text.Quoted
import SlotUpdate.Text.HexDump
import SlotUpdate.Hash.Sha256
import SlotUpdate.Base64
import SlotUpdate.ErrorCode
import SlotUpdate.SystemError
import SlotUpdate.Slot
import SlotUpdate.Wire.Field
import SlotUpdate.Wire.Message
import SlotUpdate.Manifest
import SlotUpdate.Verifier
import SlotUpdate.Payload.Metadata
import SlotUpdate.Progress.Weights
import SlotUpdate.Progress.Line
import SlotUpdate.Progress.LineBuffer
import SlotUpdate.Progress.Recovery
import SlotUpdate.Path
import SlotUpdate.Files
import SlotUpdate.Mount.Program
import SlotUpdate.Mount.FileFormat
import SlotUpdate.Mount.BuildInfo
import SlotUpdate.Boot.Host
import SlotUpdate.Boot.Memory
import SlotUpdate.Plan.Install
import SlotUpdate.Verify.Partitions
import SlotUpdate.Rehearsal.Steps
import SlotUpdate.Rehearsal.Mounts
import SlotUpdate.Keys.Load
import SlotUpdate.Toml.Fault
import SlotUpdate.Toml.Value
import SlotUpdate.Toml.Text
import SlotUpdate.Toml.Scalar
import SlotUpdate.Toml.Parse
import SlotUpdate.Config
import SlotUpdate.Shell.Parse
import SlotUpdate.Shell.Arithmetic
import SlotUpdate.Shell.Printf
import SlotUpdate.Shell.Session
import SlotUpdate.Shell.Step
import SlotUpdate.Rehearsal.Launches
import SlotUpdate.Rehearsal.Scripts
import SlotUpdate.Mount.System
import SlotUpdate.Platform.Host
import SlotUpdate.Command.Report
import SlotUpdate.Command.Arguments
import SlotUpdate.Command.Payload
import SlotUpdate.Command.Run
import SlotUpdate.Main
import SlotUpdate.Proofs.Postinstall.Completion
import SlotUpdate.Proofs.Postinstall.Reachable
import SlotUpdate.Proofs.Postinstall.Refinement
import SlotUpdate.Proofs.Postinstall.SlotSwitch
import SlotUpdate.Proofs.Base64.Canonical
import SlotUpdate.Proofs.Bytes.Digits
import SlotUpdate.Proofs.Rsa.Blocks
import SlotUpdate.Proofs.Rsa.Stepwise
import SlotUpdate.Proofs.Verifier.Acceptance
import SlotUpdate.Proofs.Verifier.RawSignatures
import SlotUpdate.Proofs.Verifier.Containers
import SlotUpdate.Proofs.Payload.Header
import SlotUpdate.Proofs.Payload.HeaderFormat
import SlotUpdate.Proofs.Payload.Source
import SlotUpdate.Proofs.Payload.Checks
import SlotUpdate.Proofs.Payload.Reading
import SlotUpdate.Proofs.Payload.Binding
import SlotUpdate.Proofs.Wire.RoundTrip
import SlotUpdate.Proofs.Wire.Schema
import SlotUpdate.Proofs.Wire.Size
import SlotUpdate.Proofs.Wire.Growth
import SlotUpdate.Proofs.Wire.Canonical
import SlotUpdate.Proofs.Payload.RoundTrip
import SlotUpdate.Proofs.Postinstall.Course
import SlotUpdate.Proofs.Postinstall.Powerwash
import SlotUpdate.Proofs.Postinstall.Programs
import SlotUpdate.Proofs.Postinstall.Signals
import SlotUpdate.Proofs.Mount.Containment
import SlotUpdate.Proofs.Postinstall.LaunchOrder
import SlotUpdate.Proofs.Postinstall.MountBalance
import SlotUpdate.Proofs.Postinstall.Mapping
import SlotUpdate.Proofs.Postinstall.Controls
import SlotUpdate.Proofs.Action.Matches
import SlotUpdate.Proofs.Postinstall.StatusIndependence
import SlotUpdate.Proofs.Postinstall.Tale
import SlotUpdate.Proofs.Postinstall.Visits
import SlotUpdate.Proofs.Postinstall.SpokenLines
import SlotUpdate.Proofs.Postinstall.Portions
import SlotUpdate.Proofs.Postinstall.Shares
import SlotUpdate.Proofs.Progress.Exact
import SlotUpdate.Proofs.Progress.Sums
import SlotUpdate.Proofs.Progress.Streams
import SlotUpdate.Proofs.Boot.Devices
import SlotUpdate.Proofs.Plan.Triggered
import SlotUpdate.Proofs.Plan.Target
import SlotUpdate.Proofs.Plan.Loading
import SlotUpdate.Proofs.Plan.Applying
import SlotUpdate.Proofs.Postinstall.TriggeredRuns
import SlotUpdate.Proofs.Postinstall.RunningSlot
import SlotUpdate.Proofs.Verify.Intact
import SlotUpdate.Proofs.Verify.Reports
import SlotUpdate.Proofs.Verify.Climb
import SlotUpdate.Proofs.Command.Acceptance
import SlotUpdate.Proofs.List.Pieces
import SlotUpdate.Proofs.Text.Lines
import SlotUpdate.Proofs.Plan.PropertyLines
import SlotUpdate.Proofs.Decimal.Grammar
import SlotUpdate.Proofs.Decimal.Stages
import SlotUpdate.Proofs.Decimal.Longest
import SlotUpdate.Proofs.Progress.Literals
import SlotUpdate.Proofs.Keys.Rewrapping
import SlotUpdate.Proofs.Postinstall.DeviceDirectory
import SlotUpdate.Proofs.Mount.Handles
import SlotUpdate.Proofs.Boot.Agreement
import SlotUpdate.Proofs.Plan.SameSlot
import SlotUpdate.Proofs.Progress.Throttling
import SlotUpdate.Proofs.Hash.Stream
import SlotUpdate.Proofs.Verify.Readers
import SlotUpdate.Proofs.Verify.ReadBoundaries
