import FrameBridge.Protocol.Error

/-!
# Events

What a codec reports: frames it decoded, streams that changed, a connection that
is being closed, and violations it found.
-/

namespace FrameBridge

/-- A change in the life of a stream. -/
inductive StreamChange where
  | added
  | active
  | halfClosed
  | removed
  | closed
deriving DecidableEq, Repr, Inhabited

/-- The diagnostic name of a change. -/
def StreamChange.dump : StreamChange → String
  | .added => "Added"
  | .active => "Active"
  | .halfClosed => "HalfClosed"
  | .removed => "Removed"
  | .closed => "Closed"

/-- Which side announced the end of a connection. -/
inductive GoAwayDirection where
  | sent
  | received
deriving DecidableEq, Repr, Inhabited

/-- The diagnostic name of a direction. -/
def GoAwayDirection.dump : GoAwayDirection → String
  | .sent => "Sent"
  | .received => "Received"

/-- An announced end of a connection. -/
structure GoAway where
  direction : GoAwayDirection
  last : StreamId
  code : ErrorCode
  debug : Bytes
deriving DecidableEq, Repr, Inhabited

/-- The diagnostic text of an announced end. -/
def GoAway.dump (g : GoAway) : String :=
  Dump.record "GoAwayEvent"
    [("direction", g.direction.dump), ("last_stream_id", g.last.dump),
      ("error_code", g.code.dump), ("debug_data", Quoted.bytes g.debug)]

/-- What a codec reports. -/
inductive Event where
  | frame (frame : Frame)
  | stream (change : StreamChange) (stream : StreamId)
  | goAway (goAway : GoAway)
  | writabilityChanged (stream : StreamId)
  | error (error : ProtocolError)
deriving DecidableEq, Repr, Inhabited

/-- The diagnostic text of an event. -/
def Event.dump : Event → String
  | .frame f => Dump.wrap "Frame" [f.dump]
  | .stream c s => Dump.wrap "Stream" [Dump.wrap c.dump [s.dump]]
  | .goAway g => Dump.wrap "GoAway" [g.dump]
  | .writabilityChanged s => Dump.wrap "WritabilityChanged" [s.dump]
  | .error e => Dump.wrap "Error" [e.dump]

end FrameBridge
