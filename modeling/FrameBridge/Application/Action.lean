import FrameBridge.Wire.Command

/-!
# Actions

What application code does when it is called is data: a list of actions, each a
write through the writer it was given, a write through a handle, a question, or
a panic.  Two pieces of application code that act alike are the same list, so a
statement about every callback is a statement about every list.

An action may name the current stream, which is the stream that the callback is
about.
-/

namespace FrameBridge

/-- A stream named by an action. -/
inductive StreamRef where
  | id (stream : StreamId)
  | current
deriving DecidableEq, Repr, Inhabited

/-- The stream that is meant when `now` is the current one. -/
def StreamRef.resolve (now : StreamId) : StreamRef → StreamId
  | .id s => s
  | .current => now

/-- How the author of a write wants to watch it, if at all: the way and the label. -/
abbrev WatchRequest := Option (WatchKind × String)

/-- An action on the writer of a callback. -/
inductive WriterAction where
  | headers (stream : StreamRef) (headers : Headers) (ends : Bool)
  | data (stream : StreamRef) (data : Bytes) (ends : Bool)
  | ping (payload : PingPayload) (watch : WatchRequest)
  | consume (stream : StreamRef) (amount : UInt32)
  | frame (stream : StreamRef) (type : UInt8) (flags : FrameFlags) (payload : Bytes)
  | reset (stream : StreamRef) (code : ErrorCode)
  | goAway (code : ErrorCode) (last : StreamId) (debug : Bytes)
  | settings (settings : Settings) (watch : WatchRequest)
  /-- A push promise for an identifier that the author chose. -/
  | pushId (stream : StreamRef) (promised : StreamId) (headers : Headers)
      (watch : WatchRequest)
  /-- A push promise for the next identifier. -/
  | push (stream : StreamRef) (headers : Headers)
  | isWritable (stream : StreamRef)
  | isActive
  | close
deriving DecidableEq, Repr, Inhabited

/-- An action on a handle.  Pings, settings and push promises are always watched. -/
inductive HandleAction where
  | headers (stream : StreamRef) (headers : Headers) (ends : Bool)
  | data (stream : StreamRef) (data : Bytes) (ends : Bool)
  | frame (stream : StreamRef) (type : UInt8) (flags : FrameFlags) (payload : Bytes)
  | reset (stream : StreamRef) (code : ErrorCode)
  | goAway (code : ErrorCode) (last : StreamId) (debug : Bytes)
  | ping (payload : PingPayload) (label : String)
  | settings (settings : Settings) (label : String)
  | push (stream : StreamRef) (headers : Headers) (kind : WatchKind) (label : String)
  | isClosed
deriving DecidableEq, Repr, Inhabited

/-- One step of application code. -/
inductive Action where
  /-- Skipped where the callback has no writer. -/
  | write (action : WriterAction)
  /-- Uses the handle of a bridge: that of another one if `target` says so, and from a
  thread that runs no loop if `offLoop` says so. -/
  | handle (target : Option LoopId) (offLoop : Bool) (action : HandleAction)
  | panic (message : String)
deriving DecidableEq, Repr, Inhabited

end FrameBridge
