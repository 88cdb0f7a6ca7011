import FrameBridge.Wire.Promise

/-!
# Commands

A write that was asked for through a handle, on its way to the loop that owns
the bridge.
-/

namespace FrameBridge

/-- A write that waits for its loop. -/
inductive Command where
  | headers (stream : StreamId) (headers : Headers) (ends : Bool)
  | data (stream : StreamId) (data : Bytes) (ends : Bool)
  | ping (payload : PingPayload) (promise : Promise)
  | frame (stream : StreamId) (type : UInt8) (flags : FrameFlags) (payload : Bytes)
  | reset (stream : StreamId) (code : ErrorCode)
  | goAway (code : ErrorCode) (last : StreamId) (debug : Bytes)
  | settings (settings : Settings) (promise : Promise)
  | pushPromise (stream promised : StreamId) (headers : Headers) (promise : Promise)
deriving DecidableEq, Repr, Inhabited

namespace Command

/-- The short name of a command. -/
def name : Command → String
  | .headers .. => "headers"
  | .data .. => "data"
  | .ping .. => "ping"
  | .frame .. => "frame"
  | .reset .. => "reset"
  | .goAway .. => "go_away"
  | .settings .. => "settings"
  | .pushPromise .. => "push_promise"

/-- The promise a command carries; the other commands have nobody who waits. -/
def promise : Command → Promise
  | .ping _ p | .settings _ p | .pushPromise _ _ _ p => p
  | .headers .. | .data .. | .frame .. | .reset .. | .goAway .. => .void

/-- The diagnostic text of a command. -/
def dump : Command → String
  | .headers s h ends =>
      Dump.record "Headers"
        [("stream_id", s.dump), ("headers", h.dump), ("end_of_stream", Dump.flag ends)]
  | .data s d ends =>
      Dump.record "Data"
        [("stream_id", s.dump), ("data", Quoted.bytes d), ("end_of_stream", Dump.flag ends)]
  | .ping n p => Dump.record "Ping" [("payload", n.dump), ("promise", p.dump)]
  | .frame s t f d =>
      Dump.record "Frame"
        [("stream_id", s.dump), ("frame_type", Dump.number t.toNat), ("flags", f.dump),
          ("payload", Quoted.bytes d)]
  | .reset s c => Dump.record "Reset" [("stream_id", s.dump), ("error_code", c.dump)]
  | .goAway c last d =>
      Dump.record "GoAway"
        [("error_code", c.dump), ("last_stream_id", last.dump), ("debug_data", Quoted.bytes d)]
  | .settings s p => Dump.record "Settings" [("settings", s.dump), ("promise", p.dump)]
  | .pushPromise s promised h p =>
      Dump.record "PushPromise"
        [("stream_id", s.dump), ("promised_stream_id", promised.dump), ("headers", h.dump),
          ("promise", p.dump)]

end Command

end FrameBridge
