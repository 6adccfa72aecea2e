import RecordGate.Binary64
import RecordGate.CallResult
import RecordGate.Config
import RecordGate.Config.File
import RecordGate.Digest
import RecordGate.Digest.Ripemd160
import RecordGate.Failure
import RecordGate.FileTree
import RecordGate.Gate
import RecordGate.Gate.Address
import RecordGate.Gate.Batch
import RecordGate.Gate.Call
import RecordGate.Gate.Configured
import RecordGate.Gate.Description
import RecordGate.Gate.Error
import RecordGate.Gate.Event
import RecordGate.Gate.Scan
import RecordGate.Hex
import RecordGate.Host
import RecordGate.Host.Entry
import RecordGate.Json
import RecordGate.Json.Coded
import RecordGate.Json.Numeral
import RecordGate.Json.Reader
import RecordGate.Json.Records
import RecordGate.Json.Writer
import RecordGate.Key
import RecordGate.Log.Event
import RecordGate.Log.Level
import RecordGate.Log.Line
import RecordGate.Log.Router
import RecordGate.Options
import RecordGate.Options.Policies
import RecordGate.OrderedMap
import RecordGate.Policy
import RecordGate.Program
import RecordGate.Proofs.Client.Command
import RecordGate.Proofs.Config
import RecordGate.Proofs.FileTree
import RecordGate.Proofs.Gate.Addressing
import RecordGate.Proofs.Gate.Answer
import RecordGate.Proofs.Gate.Command
import RecordGate.Proofs.Gate.Inquiry
import RecordGate.Proofs.Gate.Positions
import RecordGate.Proofs.Gate.Request
import RecordGate.Proofs.Gate.Shape
import RecordGate.Proofs.Gate.Success
import RecordGate.Proofs.Host.Grammar
import RecordGate.Proofs.Json.Texts
import RecordGate.Proofs.Key.Preimage
import RecordGate.Proofs.Log.Routing
import RecordGate.Proofs.Options.Switches
import RecordGate.Proofs.Program
import RecordGate.Proofs.Session.Account
import RecordGate.Proofs.Session.Addressing
import RecordGate.Proofs.Session.Atomicity
import RecordGate.Proofs.Session.BatchBySingle
import RecordGate.Proofs.Session.BothEnds
import RecordGate.Proofs.Session.Codes
import RecordGate.Proofs.Session.Configuring
import RecordGate.Proofs.Session.ConflictHistory
import RecordGate.Proofs.Session.Connection
import RecordGate.Proofs.Session.Counter
import RecordGate.Proofs.Session.Course
import RecordGate.Proofs.Session.Damage
import RecordGate.Proofs.Session.Existence
import RecordGate.Proofs.Session.Expiry
import RecordGate.Proofs.Session.Faults
import RecordGate.Proofs.Session.GateRun
import RecordGate.Proofs.Session.GenerationCount
import RecordGate.Proofs.Session.GuardedDelete
import RecordGate.Proofs.Session.History
import RecordGate.Proofs.Session.Idle
import RecordGate.Proofs.Session.Independence
import RecordGate.Proofs.Session.Invariant
import RecordGate.Proofs.Session.Link
import RecordGate.Proofs.Session.LostUpdate
import RecordGate.Proofs.Session.MapWrites
import RecordGate.Proofs.Session.Obeyed
import RecordGate.Proofs.Session.Observation
import RecordGate.Proofs.Session.Projection
import RecordGate.Proofs.Session.ReadBack
import RecordGate.Proofs.Session.Reading
import RecordGate.Proofs.Session.Report
import RecordGate.Proofs.Session.ScanExactness
import RecordGate.Proofs.Session.ScanModes
import RecordGate.Proofs.Session.Sharding
import RecordGate.Proofs.Session.Soundness
import RecordGate.Proofs.Session.StoreCall
import RecordGate.Proofs.Session.Success
import RecordGate.Proofs.Session.TimeToLive
import RecordGate.Proofs.Session.Touch
import RecordGate.Proofs.Store.Alike
import RecordGate.Proofs.Store.Apart
import RecordGate.Proofs.Store.Books
import RecordGate.Proofs.Store.Contents
import RecordGate.Proofs.Store.Counter
import RecordGate.Proofs.Store.Damage
import RecordGate.Proofs.Store.Delivery
import RecordGate.Proofs.Store.Effect
import RecordGate.Proofs.Store.Execute
import RecordGate.Proofs.Store.Expiry
import RecordGate.Proofs.Store.Generation
import RecordGate.Proofs.Store.Interchange
import RecordGate.Proofs.Store.Joining
import RecordGate.Proofs.Store.Likeness
import RecordGate.Proofs.Store.Locality
import RecordGate.Proofs.Store.MapRecords
import RecordGate.Proofs.Store.Places
import RecordGate.Proofs.Store.Presence
import RecordGate.Proofs.Store.Reading
import RecordGate.Proofs.Store.Replacement
import RecordGate.Proofs.Store.Served
import RecordGate.Proofs.Store.Setless
import RecordGate.Proofs.Store.Soundness
import RecordGate.Proofs.Store.Stepwise
import RecordGate.Proofs.Store.TiedScans
import RecordGate.Proofs.Store.Versions
import RecordGate.Proofs.Store.Visits
import RecordGate.Proofs.Text.Numerals
import RecordGate.Proofs.Text.Octets
import RecordGate.Proofs.Toml.Documents
import RecordGate.Proofs.Toml.Quoting
import RecordGate.Proofs.Value.Equality
import RecordGate.Proofs.Value.Forms
import RecordGate.Record
import RecordGate.RecordClient
import RecordGate.ResultCode
import RecordGate.Session
import RecordGate.Session.Gates
import RecordGate.Store.Apply
import RecordGate.Store.Cluster
import RecordGate.Store.Node
import RecordGate.Store.Refusal
import RecordGate.Store.Scan
import RecordGate.Store.StoredRecord
import RecordGate.Text.Blank
import RecordGate.Text.Literal
import RecordGate.Text.Shown
import RecordGate.Toml.Document
import RecordGate.Toml.Quoted
import RecordGate.Toml.Scalar
import RecordGate.Toml.Table
import RecordGate.Value
import RecordGate.Value.Equality
