import FrameBridge.Application.Action
import FrameBridge.Application.Connection
import FrameBridge.Bridge.Basic
import FrameBridge.Bridge.Builder
import FrameBridge.Bridge.Callbacks
import FrameBridge.Bridge.Drive
import FrameBridge.Bridge.Entries
import FrameBridge.Bridge.Errors
import FrameBridge.Bridge.Lifecycle
import FrameBridge.Bridge.Moves
import FrameBridge.Bridge.Outlet
import FrameBridge.Bridge.Panic
import FrameBridge.Bridge.Routing
import FrameBridge.Bridge.Run
import FrameBridge.Decoding.Builtin
import FrameBridge.Decoding.Decoder
import FrameBridge.Decoding.Hearing
import FrameBridge.Decoding.Listener
import FrameBridge.Hub.Basic
import FrameBridge.Hub.Handle
import FrameBridge.Hub.Journal
import FrameBridge.Hub.Metrics
import FrameBridge.Hub.Notice
import FrameBridge.Loop.Course
import FrameBridge.Loop.Delivery
import FrameBridge.Loop.EventLoop
import FrameBridge.Loop.Idle
import FrameBridge.Loop.ReadBuffer
import FrameBridge.Loop.Tap
import FrameBridge.Loop.Transport
import FrameBridge.Protocol.Error
import FrameBridge.Protocol.ErrorCode
import FrameBridge.Protocol.Event
import FrameBridge.Protocol.Frame
import FrameBridge.Protocol.Header
import FrameBridge.Protocol.LocalStreams
import FrameBridge.Protocol.Settings
import FrameBridge.Protocol.StreamId
import FrameBridge.Protocol.StreamMap
import FrameBridge.Protocol.StreamSet
import FrameBridge.Rehearsal.BodyDecoder
import FrameBridge.Rehearsal.ContentDecoder
import FrameBridge.Rehearsal.Inflate.BitSource
import FrameBridge.Rehearsal.Inflate.Checksum
import FrameBridge.Rehearsal.Inflate.Code
import FrameBridge.Rehearsal.Inflate.Gzip
import FrameBridge.Rehearsal.Inflate.Inflater
import FrameBridge.Rehearsal.Inflate.Member
import FrameBridge.Rehearsal.Inflate.Stream
import FrameBridge.Rehearsal.LineCodec
import FrameBridge.Rehearsal.LoopStage
import FrameBridge.Rehearsal.Pipe
import FrameBridge.Rehearsal.Script
import FrameBridge.Rehearsal.Stage
import FrameBridge.Rehearsal.ToyDecoder
import FrameBridge.Text.Blank
import FrameBridge.Text.Bytes
import FrameBridge.Text.Dump
import FrameBridge.Text.Printable
import FrameBridge.Text.Quoted
import FrameBridge.Text.Utf8
import FrameBridge.Wire.Channel
import FrameBridge.Wire.Codec
import FrameBridge.Wire.Command
import FrameBridge.Wire.Promise
import FrameBridge.Proofs.Buffering.Conservation
import FrameBridge.Proofs.Calls.Life
import FrameBridge.Proofs.Calls.Order
import FrameBridge.Proofs.Calls.View
import FrameBridge.Proofs.Counters.Agreement
import FrameBridge.Proofs.Counters.Handled
import FrameBridge.Proofs.Counters.Run
import FrameBridge.Proofs.Counters.Speech
import FrameBridge.Proofs.Counters.Tally
import FrameBridge.Proofs.Delivery.Batch
import FrameBridge.Proofs.Delivery.Close
import FrameBridge.Proofs.Delivery.Cover
import FrameBridge.Proofs.Delivery.Encoded
import FrameBridge.Proofs.Delivery.Loop
import FrameBridge.Proofs.Delivery.Order
import FrameBridge.Proofs.Delivery.Rest
import FrameBridge.Proofs.Delivery.Result
import FrameBridge.Proofs.Delivery.Steps
import FrameBridge.Proofs.Delivery.Tap
import FrameBridge.Proofs.Delivery.Up
import FrameBridge.Proofs.Delivery.Waiting
import FrameBridge.Proofs.Ending.Finish
import FrameBridge.Proofs.Ending.Kept
import FrameBridge.Proofs.Ending.Refusal
import FrameBridge.Proofs.Ending.Served
import FrameBridge.Proofs.Ending.Streams
import FrameBridge.Proofs.Ending.Work
import FrameBridge.Proofs.Entry.Batch
import FrameBridge.Proofs.Entry.Change
import FrameBridge.Proofs.Entry.Closing
import FrameBridge.Proofs.Entry.Settled
import FrameBridge.Proofs.Entry.Stance
import FrameBridge.Proofs.Fault.Answer
import FrameBridge.Proofs.Fault.Farewell
import FrameBridge.Proofs.Fault.Handling
import FrameBridge.Proofs.Fault.Hush
import FrameBridge.Proofs.Fault.Leftover
import FrameBridge.Proofs.Fault.Reaction
import FrameBridge.Proofs.Fault.Silence
import FrameBridge.Proofs.Idling.History
import FrameBridge.Proofs.Issue.Cutoff
import FrameBridge.Proofs.Issue.Deferred
import FrameBridge.Proofs.Issue.Frames
import FrameBridge.Proofs.Issue.Log
import FrameBridge.Proofs.Issue.Order
import FrameBridge.Proofs.Issue.Sight
import FrameBridge.Proofs.Issue.Tracks
import FrameBridge.Proofs.Issue.Transcript
import FrameBridge.Proofs.Law.Deed
import FrameBridge.Proofs.Law.Drive
import FrameBridge.Proofs.Law.Hub
import FrameBridge.Proofs.Law.Journal
import FrameBridge.Proofs.Law.Line
import FrameBridge.Proofs.Law.Outlet
import FrameBridge.Proofs.Law.Recall
import FrameBridge.Proofs.Law.Recorder
import FrameBridge.Proofs.Law.Rule
import FrameBridge.Proofs.Law.Steady
import FrameBridge.Proofs.Law.Turn
import FrameBridge.Proofs.Law.Word
import FrameBridge.Proofs.Lines.Reads
import FrameBridge.Proofs.Listening.Apart
import FrameBridge.Proofs.Listening.Body
import FrameBridge.Proofs.Listening.Cuts
import FrameBridge.Proofs.Listening.Guard
import FrameBridge.Proofs.Listening.Roster
import FrameBridge.Proofs.Listening.Share
import FrameBridge.Proofs.Listening.Stripped
import FrameBridge.Proofs.Numbering.Shared
import FrameBridge.Proofs.Promises.Balance
import FrameBridge.Proofs.Promises.Fate
import FrameBridge.Proofs.Promises.Sound
import FrameBridge.Proofs.Promises.Trace
import FrameBridge.Proofs.Pushes.Course
import FrameBridge.Proofs.Pushes.Entries
import FrameBridge.Proofs.Pushes.InTurn
import FrameBridge.Proofs.Pushes.Numbers
import FrameBridge.Proofs.Pushes.Order
import FrameBridge.Proofs.Pushes.Sent
import FrameBridge.Proofs.Pushes.Writes
import FrameBridge.Proofs.Rounds.Load
import FrameBridge.Proofs.Rounds.Round
import FrameBridge.Proofs.Traffic.Account
import FrameBridge.Proofs.Traffic.Busy
import FrameBridge.Proofs.Traffic.Calls
import FrameBridge.Proofs.Traffic.Fleet
import FrameBridge.Proofs.Traffic.Nesting
import FrameBridge.Proofs.Traffic.Quiet
import FrameBridge.Proofs.Traffic.Routes
import FrameBridge.Proofs.Traffic.Runs
