import Diagnostics.Log.Message
import Diagnostics.Main
import Diagnostics.Reporting.Reporter
import Diagnostics.Settings.Session
import Diagnostics.Proofs.Diagnostic.Refusal
import Diagnostics.Proofs.CommandLine.Report
import Diagnostics.Proofs.Input.Pointwise
import Diagnostics.Proofs.Input.Isolation
import Diagnostics.Proofs.Report.Order
import Diagnostics.Proofs.Report.Defaults
import Diagnostics.Proofs.Report.Views
import Diagnostics.Proofs.Reporting.Exchange
import Diagnostics.Proofs.Json.Numbers
import Diagnostics.Proofs.Json.Strings
import Diagnostics.Proofs.Json.RoundTrip
import Diagnostics.Proofs.Payload.RoundTrip
import Diagnostics.Proofs.Input.Outcomes
import Diagnostics.Proofs.CodeFrame.Drawable
import Diagnostics.Reporting.Worker
import Diagnostics.Proofs.Reporting.Worker
import Diagnostics.Proofs.Reporting.Deferred
import Diagnostics.Proofs.Settings.Precedence
import Diagnostics.Proofs.Settings.Discovery
import Diagnostics.Proofs.Settings.RoundTrip
import Diagnostics.Proofs.Reporting.Threads
import Diagnostics.Proofs.Ansi.Lines
import Diagnostics.Proofs.CommandLine.Colors
import Diagnostics.Proofs.Json.Ascii
import Diagnostics.Proofs.CommandLine.Payload
import Diagnostics.Proofs.CommandLine.Envelopes
import Diagnostics.Proofs.CodeFrame.Rows
import Diagnostics.Proofs.CodeFrame.Characters
import Diagnostics.Proofs.CodeFrame.Numbering
import Diagnostics.Proofs.CodeFrame.Alignment
import Diagnostics.Proofs.Ansi.Sequences
import Diagnostics.Proofs.CodeFrame.Carets
import Diagnostics.Proofs.CodeFrame.Stripping
import Diagnostics.Proofs.CodeFrame.Clipping
import Diagnostics.Proofs.CodeFrame.Columnless
import Diagnostics.Proofs.CodeFrame.Message
import Diagnostics.Proofs.Ansi.Grammar
import Diagnostics.Proofs.Ansi.Residue
import Diagnostics.Proofs.CodeFrame.Residue
import Diagnostics.Proofs.Settings.Levels
import Diagnostics.Proofs.Settings.Reading
import Diagnostics.Proofs.Payload.Normal
import Diagnostics.Proofs.Log.Threshold
import Diagnostics.Proofs.CommandLine.Choice
import Diagnostics.Proofs.Log.Setup
import Diagnostics.Proofs.CodeFrame.Splitting
