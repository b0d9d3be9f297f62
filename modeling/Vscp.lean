import Vscp.Host.Call
import Vscp.Host.ManualTimers
import Vscp.Host.RegisterFile
import Vscp.Main
import Vscp.Proofs.Bytes
import Vscp.Proofs.Rule.Condition
import Vscp.Proofs.Rule.Chain
import Vscp.Proofs.Rule.Site
import Vscp.Proofs.Rule.Walk
import Vscp.Proofs.Rule.Encoding
import Vscp.Proofs.Source.RuleText
import Vscp.Proofs.Text.Line
import Vscp.Proofs.Rule.Span
import Vscp.Proofs.Source.Rebuild
import Vscp.Proofs.Node.Core
import Vscp.Proofs.Node.Access
import Vscp.Proofs.Node.Management
import Vscp.Proofs.Node.Expiry
import Vscp.Proofs.Node.Turn
import Vscp.Proofs.Node.Step
import Vscp.Proofs.Node.Lifecycle
import Vscp.Proofs.Node.Run
import Vscp.Proofs.Node.Session
import Vscp.Proofs.Node.Delay
import Vscp.Proofs.Node.Change
import Vscp.Proofs.Node.Identity
import Vscp.Proofs.Node.Line
import Vscp.Proofs.Node.Announce
import Vscp.Proofs.Segment.Exchange
import Vscp.Proofs.Segment.Contest
import Vscp.Proofs.Accord.Act
import Vscp.Proofs.Register.Page
import Vscp.Proofs.Register.Target
import Vscp.Proofs.Accord.Command
import Vscp.Proofs.Accord.Process
import Vscp.Proofs.Accord.Serve
import Vscp.Proofs.Node.Speech
import Vscp.Proofs.Node.Settings
import Vscp.Proofs.Node.Memory
import Vscp.Proofs.Node.Refusal
import Vscp.Proofs.Node.Window
import Vscp.Proofs.Node.Dispatch
import Vscp.Proofs.Rule.Representable
import Vscp.Proofs.Rule.Isolation
import Vscp.Proofs.Rule.Location
import Vscp.Proofs.Source.Grammar
import Vscp.Proofs.Source.Meaning
import Vscp.Proofs.Source.Transcription
import Vscp.Proofs.GuidDrop.History
import Vscp.Proofs.GuidDrop.Sender
import Vscp.Proofs.Node.Ignored
import Vscp.Proofs.Node.Wiring
import Vscp.Proofs.Node.Deadline
import Vscp.Proofs.Node.Search
import Vscp.Proofs.Node.Exhaustion
import Vscp.Proofs.Node.Assignment
import Vscp.Proofs.Node.PageRead
import Vscp.Proofs.Node.PageWrite
import Vscp.Proofs.Matrix.Firing
import Vscp.Proofs.Node.Epoch
import Vscp.Proofs.Node.Execution
import Vscp.Proofs.Node.Restore
import Vscp.Proofs.Node.Renewal
import Vscp.Proofs.Timer.Countdown
import Vscp.Proofs.Node.Lamp
import Vscp.Proofs.Node.Diagnosis
import Vscp.Proofs.Node.Heartbeat
import Vscp.Proofs.Node.Handling
import Vscp.Proofs.Event.Codec
import Vscp.Proofs.Source.Interleaving
import Vscp.Proofs.Source.Blame
import Vscp.Proofs.Source.Number
import Vscp.Proofs.Source.Reading
import Vscp.Proofs.Source.Collection
