import CommandDispatch.CallableName
import CommandDispatch.Dispatch
import CommandDispatch.GivenSchema
import CommandDispatch.Host.Script
import CommandDispatch.Inspection
import CommandDispatch.Spec.Frozen
import CommandDispatch.Proofs.Session.Growth
import CommandDispatch.Proofs.Extraction.Grammar
import CommandDispatch.Proofs.Extraction.Delivery
import CommandDispatch.Proofs.Dispatch.Selecting
import CommandDispatch.Proofs.Extraction.Acceptance
import CommandDispatch.Proofs.Extraction.Presence
import CommandDispatch.Proofs.Session.Paths
import CommandDispatch.Proofs.Dispatch.Settling
import CommandDispatch.Proofs.Dispatch.ExitStatus
import CommandDispatch.Proofs.Journal.Lines
import CommandDispatch.Proofs.Journal.Reading
import CommandDispatch.Proofs.Output.HiddenCommands
import CommandDispatch.Proofs.Dispatch.Veils
import CommandDispatch.Proofs.Dispatch.Uses
import CommandDispatch.Proofs.Dispatch.Surfacing
import CommandDispatch.Proofs.Dispatch.LoggingFailures
import CommandDispatch.Proofs.Dispatch.ConfigurationReach
import CommandDispatch.Proofs.Dispatch.Accounting
import CommandDispatch.Proofs.Dispatch.Colour
import CommandDispatch.Proofs.Dispatch.Independence
import CommandDispatch.Proofs.Extraction.Shadowing
import CommandDispatch.Proofs.Extraction.Stopping
import CommandDispatch.Proofs.Extraction.Limits
import CommandDispatch.Proofs.Extraction.Rearranging
import CommandDispatch.Proofs.Dispatch.Extending
import CommandDispatch.Proofs.Output.Usage
import CommandDispatch.Proofs.Dispatch.VersionCommand
import CommandDispatch.Proofs.Dispatch.Priority
import CommandDispatch.Proofs.Status.Diagnostics
import CommandDispatch.Proofs.Journal.Buffers
import CommandDispatch.Proofs.Output.CommandPages
import CommandDispatch.Proofs.Status.HardwareWords
import CommandDispatch.Proofs.Text.Stripping
import CommandDispatch.Proofs.Dispatch.Spellings
import CommandDispatch.Proofs.Spec.ReadingBack
import CommandDispatch.Proofs.Spec.Redeclaring
import CommandDispatch.Proofs.Spec.Freezing
import CommandDispatch.Proofs.Session.LogTail
import CommandDispatch.Proofs.Text.Durations
