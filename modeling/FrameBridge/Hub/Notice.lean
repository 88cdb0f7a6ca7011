import FrameBridge.Loop.Idle
import FrameBridge.Protocol.Event
import FrameBridge.Wire.Promise

/-!
# Notices

What a bridge and its loop tell an operator.  Each notice is kept as its cause
with the values it speaks of; its level and its wording are given here and
nowhere else.
-/

namespace FrameBridge

/-- How a session was started from an older protocol. -/
inductive Upgrade where
  /-- On a server, with the settings that came with the request. -/
  | server (settings : Settings)
  /-- On a client, which used stream 1 for the request. -/
  | client
deriving DecidableEq, Repr, Inhabited

/-- The diagnostic text of an upgrade. -/
def Upgrade.dump : Upgrade → String
  | .server s => Dump.wrap "Server" [s.dump]
  | .client => "Client"

/-- One message to the operator. -/
inductive Notice where
  | bridgeCreated (loop : LoopId) (role : Role) (upgrade : Option Upgrade)
  | closeRequested (pending : Nat)
  | bridgeActive (loop : LoopId)
  | connectionEstablished (loop : LoopId) (decompressing : Bool)
  | eventDropped (loop : LoopId) (event : Event)
  | streamClosedEarly (stream : StreamId)
  | goAwayEarly (goAway : GoAway)
  | writabilityEarly (stream : StreamId)
  | closedEarly (loop : LoopId)
  | bridgeInactive (loop : LoopId)
  | closingIdle (loop : LoopId)
  | idleIgnored (loop : LoopId) (kind : IdleKind)
  | errorIgnored (loop : LoopId) (error : BridgeError)
  | contractViolated (loop : LoopId) (error : BridgeError)
  | uncaughtError (loop : LoopId) (error : BridgeError)
  | streamError (loop : LoopId) (stream : StreamId) (error : ProtocolError)
  | connectionError (loop : LoopId) (error : ProtocolError)
  | frameIgnored (frame : Frame)
  | decodingBody (stream : StreamId) (encoding : String)
  | loopStarted (loop : LoopId) (running : Nat)
  | shutdownRequested (loop : LoopId)
  | transportClosed (loop : LoopId)
  | readFailed (loop : LoopId) (message : String)
  | writeFailed (loop : LoopId) (error : BridgeError)
  | shutdownFailed (loop : LoopId) (message : String)
  | loopFinished (loop : LoopId)
  | loopPanicked (loop : LoopId) (message : String)
deriving DecidableEq, Repr, Inhabited

/-- How urgent a notice is. -/
inductive Level where
  | debug
  | info
  | warn
  | error
deriving DecidableEq, Repr, Inhabited

/-- The name of a level. -/
def Level.display : Level → String
  | .debug => "DEBUG"
  | .info => "INFO"
  | .warn => "WARN"
  | .error => "ERROR"

namespace Notice

/-- How urgent a notice is. -/
def level : Notice → Level
  | .bridgeCreated .. | .closeRequested _ | .eventDropped .. | .streamClosedEarly _
  | .goAwayEarly _ | .writabilityEarly _ | .closedEarly _ | .idleIgnored ..
  | .errorIgnored .. | .frameIgnored _ | .decodingBody .. | .transportClosed _
  | .shutdownFailed .. => .debug
  | .bridgeActive _ | .connectionEstablished .. | .bridgeInactive _ | .closingIdle _
  | .loopStarted .. | .shutdownRequested _ | .loopFinished _ => .info
  | .uncaughtError .. | .streamError .. | .connectionError .. | .readFailed ..
  | .writeFailed .. => .warn
  | .contractViolated .. | .loopPanicked .. => .error

/-- The wording of a notice. -/
def message : Notice → String
  | .bridgeCreated l r u =>
      "bridge created: loop_id=" ++ l.display ++ ", role=" ++ r.dump ++ ", upgrade=" ++
        Dump.optional (u.map Upgrade.dump)
  | .closeRequested n => "channel close requested: pending=" ++ Dump.number n
  | .bridgeActive l => "bridge active: loop_id=" ++ l.display
  | .connectionEstablished l d =>
      "connection established: loop_id=" ++ l.display ++ ", decompressing=" ++ Dump.flag d
  | .eventDropped l e =>
      "event dropped after close: loop_id=" ++ l.display ++ ", event=" ++ e.dump
  | .streamClosedEarly s => "stream closed before connection: stream=" ++ s.display
  | .goAwayEarly g =>
      "goaway before connection: direction=" ++ g.direction.dump ++ ", last_stream=" ++
        g.last.display ++ ", code=" ++ g.code.display
  | .writabilityEarly s => "writability change before connection: stream=" ++ s.display
  | .closedEarly l => "bridge closed before connection: loop_id=" ++ l.display
  | .bridgeInactive l => "bridge inactive: loop_id=" ++ l.display
  | .closingIdle l => "closing idle connection: loop_id=" ++ l.display
  | .idleIgnored l k => "idle event ignored: loop_id=" ++ l.display ++ ", event=" ++ k.dump
  | .errorIgnored l e =>
      "error while closing ignored: loop_id=" ++ l.display ++ ", error=" ++ e.display
  | .contractViolated l e =>
      "bridge contract violated: loop_id=" ++ l.display ++ ", error=" ++ e.display
  | .uncaughtError l e => "uncaught bridge error: loop_id=" ++ l.display ++ ", error=" ++ e.display
  | .streamError l s e =>
      "stream error: loop_id=" ++ l.display ++ ", stream=" ++ s.display ++ ", code=" ++
        e.code.display
  | .connectionError l e =>
      "connection error: loop_id=" ++ l.display ++ ", code=" ++ e.code.display ++ ", error=" ++
        e.display
  | .frameIgnored f =>
      "frame ignored by connection: kind=" ++ f.kind.display ++ ", stream=" ++
        Dump.optional (f.stream?.map StreamId.dump)
  | .decodingBody s e => "decoding stream body: stream=" ++ s.display ++ ", encoding=" ++ e
  | .loopStarted l n =>
      "event loop started: loop_id=" ++ l.display ++ ", active=" ++ Dump.number n
  | .shutdownRequested l => "shutdown requested: loop_id=" ++ l.display
  | .transportClosed l => "transport closed by peer: loop_id=" ++ l.display
  | .readFailed l m => "transport read failed: loop_id=" ++ l.display ++ ", error=" ++ m
  | .writeFailed l e => "transport write failed: loop_id=" ++ l.display ++ ", error=" ++ e.display
  | .shutdownFailed l m => "transport shutdown failed: loop_id=" ++ l.display ++ ", error=" ++ m
  | .loopFinished l => "event loop finished: loop_id=" ++ l.display
  | .loopPanicked l m => "event loop panicked: panic=" ++ m ++ ", loop_id=" ++ l.display

/-- A notice as one line. -/
def line (n : Notice) : String :=
  n.level.display ++ ": " ++ n.message

end Notice

end FrameBridge
