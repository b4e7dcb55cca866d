import Hostlink.Redaction
import Hostlink.Text.Quoted
import Hostlink.Text.Utf8
import Hostlink.Json.Printer
import Hostlink.Conversion
import Hostlink.Multicast
import Hostlink.Registry
import Hostlink.Log.Event
import Hostlink.Time.Rfc3339
import Hostlink.Scenario.Perform
import Hostlink.Network.Scenario
import Hostlink.Config
import Hostlink.Http.Client
import Hostlink.Log.Config
import Hostlink.Log.Console
import Hostlink.Storage.Memory
import Hostlink.Storage.Path
import Hostlink.Storage.Tree
import Hostlink.Storage.Handle
import Hostlink.Storage.Scenario
import Hostlink.Http.Desktop
import Hostlink.Log.Emission
import Hostlink.Log.Filter
import Hostlink.Log.Filter.Directive
import Hostlink.Log.Filter.FieldMatch
import Hostlink.Log.Forwarding
import Hostlink.Log.Line.Compact
import Hostlink.Log.Line.Pretty
import Hostlink.Log.Line.Structured
import Hostlink.Log.Session
import Hostlink.Proofs.Event.Mirror
import Hostlink.Proofs.Wrapper.Closing
import Hostlink.Proofs.Bridge.FirstInFirstOut
import Hostlink.Proofs.Wrapper.Teardown
import Hostlink.Proofs.Log.Noninterference
import Hostlink.Proofs.Network.Refinement
import Hostlink.Proofs.Interleaving.LockOrder
import Hostlink.Proofs.Interleaving.LockSafety
import Hostlink.Proofs.Wrapper.Unwinding
import Hostlink.Proofs.Nested.Basic
import Hostlink.Proofs.Notifying.Operation
import Hostlink.Proofs.Notifying.Wiring
import Hostlink.Proofs.Notifying.Beginning
import Hostlink.Proofs.Notifying.Record
import Hostlink.Proofs.Notifying.Disposal
import Hostlink.Proofs.Notifying.LastValue
import Hostlink.Proofs.Redaction.Reference
import Hostlink.Proofs.Log.Completeness
import Hostlink.Proofs.Storage.Delivery
import Hostlink.Proofs.Storage.Sharing
import Hostlink.Proofs.Storage.Privacy
import Hostlink.Proofs.Event.Raising
import Hostlink.Proofs.Bridge.Atomicity
import Hostlink.Proofs.Storage.WholeFile
import Hostlink.Proofs.Storage.Cause
import Hostlink.Proofs.Conversion.Batch
import Hostlink.Proofs.Conversion.RoundTrip
import Hostlink.Proofs.Config
import Hostlink.Proofs.Http.ContentType
import Hostlink.Proofs.Http.Execution
import Hostlink.Proofs.Storage.Replacement
import Hostlink.Proofs.Log.ReadBack
