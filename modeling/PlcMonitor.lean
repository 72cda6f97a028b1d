import PlcMonitor.Alarm.Comparison
import PlcMonitor.Alarm.Evaluation
import PlcMonitor.Alarm.FaultyStore
import PlcMonitor.Alarm.Lifecycle
import PlcMonitor.Alarm.Occurrence
import PlcMonitor.Alarm.Record
import PlcMonitor.Alarm.Rule
import PlcMonitor.Alarm.Schedule
import PlcMonitor.Alarm.Script
import PlcMonitor.Alarm.State
import PlcMonitor.Alarm.Store
import PlcMonitor.Configuration.Basic
import PlcMonitor.Configuration.Device
import PlcMonitor.Configuration.Source
import PlcMonitor.Decimal.Binary
import PlcMonitor.Decimal.Layout
import PlcMonitor.Decimal.Reader
import PlcMonitor.Decimal.Shortest
import PlcMonitor.Device.Backoff
import PlcMonitor.Device.Fault
import PlcMonitor.Device.Fleet
import PlcMonitor.Device.Health
import PlcMonitor.Device.Link
import PlcMonitor.Device.Operation
import PlcMonitor.Digest.Sha256
import PlcMonitor.Document.Basic
import PlcMonitor.Document.Json
import PlcMonitor.Document.JsonReader
import PlcMonitor.Document.Node
import PlcMonitor.Document.Reader
import PlcMonitor.Document.Record
import PlcMonitor.Document.Scalar
import PlcMonitor.Main
import PlcMonitor.PlanReport
import PlcMonitor.Poll.Control
import PlcMonitor.Poll.Cycle
import PlcMonitor.Poll.Loop
import PlcMonitor.Poll.Poller
import PlcMonitor.Proofs.Alarm.Acknowledged
import PlcMonitor.Proofs.Alarm.Active
import PlcMonitor.Proofs.Alarm.Announced
import PlcMonitor.Proofs.Alarm.Attempt
import PlcMonitor.Proofs.Alarm.Call
import PlcMonitor.Proofs.Alarm.Change
import PlcMonitor.Proofs.Alarm.Chronicle
import PlcMonitor.Proofs.Alarm.Contention
import PlcMonitor.Proofs.Alarm.Course
import PlcMonitor.Proofs.Alarm.Crossing
import PlcMonitor.Proofs.Alarm.Keyed
import PlcMonitor.Proofs.Alarm.Naming
import PlcMonitor.Proofs.Alarm.Reread
import PlcMonitor.Proofs.Alarm.Rounds
import PlcMonitor.Proofs.Alarm.Serial
import PlcMonitor.Proofs.Alarm.Session
import PlcMonitor.Proofs.Alarm.Shifts
import PlcMonitor.Proofs.Alarm.Store
import PlcMonitor.Proofs.Configuration.Accepted
import PlcMonitor.Proofs.Configuration.Crashes
import PlcMonitor.Proofs.Configuration.FirstFault
import PlcMonitor.Proofs.Decimal.Order
import PlcMonitor.Proofs.Decimal.Magnitude
import PlcMonitor.Proofs.Device.Backoff
import PlcMonitor.Proofs.Device.Bit
import PlcMonitor.Proofs.Device.BitWrite
import PlcMonitor.Proofs.Device.Carry
import PlcMonitor.Proofs.Device.Effect
import PlcMonitor.Proofs.Device.Known
import PlcMonitor.Proofs.Device.Mirrored
import PlcMonitor.Proofs.Device.Refused
import PlcMonitor.Proofs.Device.Retries
import PlcMonitor.Proofs.Device.Series
import PlcMonitor.Proofs.Device.Standing
import PlcMonitor.Proofs.Device.Turns
import PlcMonitor.Proofs.Device.Uses
import PlcMonitor.Proofs.Document.Json
import PlcMonitor.Proofs.Document.Record
import PlcMonitor.Proofs.Except
import PlcMonitor.Proofs.Growing
import PlcMonitor.Proofs.Poll.Calls
import PlcMonitor.Proofs.Poll.Keys
import PlcMonitor.Proofs.Poll.Loops
import PlcMonitor.Proofs.Poll.Naming
import PlcMonitor.Proofs.Poll.Polled
import PlcMonitor.Proofs.Poll.Served
import PlcMonitor.Proofs.Poll.Tally
import PlcMonitor.Proofs.Reading.Finite
import PlcMonitor.Proofs.Register.Span
import PlcMonitor.Proofs.Scan.Cover
import PlcMonitor.Proofs.Scan.Footprints
import PlcMonitor.Proofs.Scan.Guarded
import PlcMonitor.Proofs.Scan.Holders
import PlcMonitor.Proofs.Scan.Plan
import PlcMonitor.Proofs.Scan.Run
import PlcMonitor.Proofs.Scan.Shape
import PlcMonitor.Proofs.Scan.ShortReads
import PlcMonitor.Proofs.Signal.Isolation
import PlcMonitor.Proofs.Sorting
import PlcMonitor.Proofs.Table
import PlcMonitor.Proofs.Tag.Footprint
import PlcMonitor.Proofs.Tag.Guarded
import PlcMonitor.Proofs.Tag.Key
import PlcMonitor.Proofs.Tag.Labels
import PlcMonitor.Proofs.Tag.Leaves
import PlcMonitor.Proofs.Tag.Spec
import PlcMonitor.Proofs.Tag.Spelling
import PlcMonitor.Proofs.Tag.Straddled
import PlcMonitor.Proofs.Text.Joined
import PlcMonitor.Proofs.Text.Trim
import PlcMonitor.Proofs.Time.OfDay
import PlcMonitor.Proofs.Wire.Registers
import PlcMonitor.Reading.Decode
import PlcMonitor.Reading.Scaling
import PlcMonitor.Reading.Value
import PlcMonitor.Register.Address
import PlcMonitor.Register.DataType
import PlcMonitor.Scan.Block
import PlcMonitor.Scan.Plan
import PlcMonitor.Scan.Settings
import PlcMonitor.Signal.Bus
import PlcMonitor.Sorting
import PlcMonitor.Table
import PlcMonitor.Tag.BitKey
import PlcMonitor.Tag.Definition
import PlcMonitor.Tag.Spec
import PlcMonitor.Tag.Tree
import PlcMonitor.Text.Blank
import PlcMonitor.Text.Case
import PlcMonitor.Text.Quoted
import PlcMonitor.Time.Calendar
import PlcMonitor.Time.Instant
import PlcMonitor.Time.OfDay
import PlcMonitor.Time.Zone
import PlcMonitor.Wire.Bank
import PlcMonitor.Wire.Rehearsed
import PlcMonitor.Wire.Transport
import PlcMonitor.Yaml.Cursor
import PlcMonitor.Yaml.Event
import PlcMonitor.Yaml.Scalar
import PlcMonitor.Yaml.Tag
import PlcMonitor.Yaml.Token
import PlcMonitor.Yaml.Tree
