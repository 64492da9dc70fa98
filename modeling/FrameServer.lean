import FrameServer.Address
import FrameServer.Application
import FrameServer.Builtin
import FrameServer.Command
import FrameServer.Config.Basic
import FrameServer.Config.Document
import FrameServer.Config.Folder
import FrameServer.Config.Options
import FrameServer.Diagnostic
import FrameServer.Directories
import FrameServer.Event.Basic
import FrameServer.Event.Bus
import FrameServer.Failure
import FrameServer.Framing.Basic
import FrameServer.Framing.Decode
import FrameServer.Framing.Writer
import FrameServer.Handler.Routine
import FrameServer.Handler.Script
import FrameServer.Json.Basic
import FrameServer.Json.Fault
import FrameServer.Json.Number
import FrameServer.Json.Parser
import FrameServer.Json.Text
import FrameServer.Keyed
import FrameServer.Log.Field
import FrameServer.Log.Filter
import FrameServer.Log.Pattern
import FrameServer.Main
import FrameServer.Middleware
import FrameServer.Number.Binary64
import FrameServer.Number.Extended
import FrameServer.Param.Basic
import FrameServer.Param.Resolver
import FrameServer.Proofs.Builtin.Chat
import FrameServer.Proofs.Builtin.Command
import FrameServer.Proofs.Builtin.Structured
import FrameServer.Proofs.Command.Dispatched
import FrameServer.Proofs.Command.Line
import FrameServer.Proofs.Config.Document
import FrameServer.Proofs.Config.Launch
import FrameServer.Proofs.Config.Partial
import FrameServer.Proofs.Config.Persistence
import FrameServer.Proofs.Config.Stated
import FrameServer.Proofs.Event.Channel
import FrameServer.Proofs.Event.Delivery
import FrameServer.Proofs.Event.Ring
import FrameServer.Proofs.Framing.Conservation
import FrameServer.Proofs.Framing.Division
import FrameServer.Proofs.Framing.Draining
import FrameServer.Proofs.Framing.Front
import FrameServer.Proofs.Framing.Limit
import FrameServer.Proofs.Framing.Reading
import FrameServer.Proofs.Framing.Resumption
import FrameServer.Proofs.Framing.RoundTrip
import FrameServer.Proofs.Framing.Search
import FrameServer.Proofs.Framing.Word
import FrameServer.Proofs.Framing.Writing
import FrameServer.Proofs.Handler.Course
import FrameServer.Proofs.Json.Legible
import FrameServer.Proofs.Json.Quoted
import FrameServer.Proofs.Keyed
import FrameServer.Proofs.Lists
import FrameServer.Proofs.Middleware.Containment
import FrameServer.Proofs.Naming
import FrameServer.Proofs.Param.Consultation
import FrameServer.Proofs.Param.Interference
import FrameServer.Proofs.Param.Registration
import FrameServer.Proofs.Param.Resolution
import FrameServer.Proofs.Param.Verdict
import FrameServer.Proofs.Ron.Field
import FrameServer.Proofs.Ron.Gap
import FrameServer.Proofs.Ron.Group
import FrameServer.Proofs.Ron.Quoted
import FrameServer.Proofs.Server.Abort
import FrameServer.Proofs.Server.Backpressure
import FrameServer.Proofs.Server.Buffer
import FrameServer.Proofs.Server.Change
import FrameServer.Proofs.Server.Common
import FrameServer.Proofs.Server.Demand
import FrameServer.Proofs.Server.Exchange
import FrameServer.Proofs.Server.Halt
import FrameServer.Proofs.Server.IdleClose
import FrameServer.Proofs.Server.Idled
import FrameServer.Proofs.Server.Isolation
import FrameServer.Proofs.Server.Lifecycle
import FrameServer.Proofs.Server.Loops
import FrameServer.Proofs.Server.Membership
import FrameServer.Proofs.Server.Notice
import FrameServer.Proofs.Server.Outbound
import FrameServer.Proofs.Server.Play
import FrameServer.Proofs.Server.Replies
import FrameServer.Proofs.Server.Seen
import FrameServer.Proofs.Server.Side
import FrameServer.Proofs.Server.Sieve
import FrameServer.Proofs.Server.Story
import FrameServer.Proofs.Server.Sweep
import FrameServer.Proofs.Server.Task
import FrameServer.Proofs.Server.Trace
import FrameServer.Proofs.Server.Turn
import FrameServer.Proofs.Server.Wire
import FrameServer.Proofs.Session.Alike
import FrameServer.Proofs.Session.Broadcast
import FrameServer.Proofs.Session.Closing
import FrameServer.Proofs.Session.Growth
import FrameServer.Proofs.Session.LaneStep
import FrameServer.Proofs.Session.Leads
import FrameServer.Proofs.Session.Ledger
import FrameServer.Proofs.Session.Meanwhile
import FrameServer.Proofs.Session.Monitor
import FrameServer.Proofs.Session.Order
import FrameServer.Proofs.Session.Path
import FrameServer.Proofs.Session.Refusal
import FrameServer.Proofs.Session.Renaming
import FrameServer.Proofs.Session.Round
import FrameServer.Proofs.Session.Sending
import FrameServer.Proofs.Session.Share
import FrameServer.Proofs.Session.Standing
import FrameServer.Proofs.Session.Steady
import FrameServer.Proofs.Session.Sweep
import FrameServer.Proofs.Session.Tally
import FrameServer.Proofs.Session.Tickets
import FrameServer.Proofs.Session.Wire
import FrameServer.Proofs.Structured.Dispatched
import FrameServer.Proofs.Structured.Gate
import FrameServer.Proofs.Structured.Pipeline
import FrameServer.Proofs.Structured.Wire
import FrameServer.Proofs.Text.Case
import FrameServer.Proofs.Text.Runs
import FrameServer.Proofs.Text.Utf8
import FrameServer.Proofs.Text.Words
import FrameServer.Proofs.Trail
import FrameServer.Ron.Basic
import FrameServer.Ron.Number
import FrameServer.Ron.Quoted
import FrameServer.Ron.Reader
import FrameServer.Server.Connection
import FrameServer.Server.Demand
import FrameServer.Server.Pump
import FrameServer.Server.Run
import FrameServer.Server.State
import FrameServer.Server.Step
import FrameServer.Server.Work
import FrameServer.Session.Basic
import FrameServer.Session.Hub
import FrameServer.Session.Lane
import FrameServer.Session.Sweep
import FrameServer.Session.Watch
import FrameServer.Shape.Basic
import FrameServer.Shape.Decode
import FrameServer.Structured
import FrameServer.Text.Case
import FrameServer.Text.Character
import FrameServer.Text.NameTable
import FrameServer.Text.Quoted
import FrameServer.Text.Utf8
