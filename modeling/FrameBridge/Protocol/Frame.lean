import FrameBridge.Protocol.ErrorCode
import FrameBridge.Protocol.Header
import FrameBridge.Protocol.Settings
import FrameBridge.Protocol.StreamId

/-!
# Frames

A frame as the codec hands it over once it is decoded.  Nothing here knows the
layout of a frame on the wire.
-/

namespace FrameBridge

/-- Which side of a session this is. -/
inductive Role where
  | client
  | server
deriving DecidableEq, Repr, Inhabited

/-- The diagnostic text of a role. -/
def Role.dump : Role → String
  | .client => "Client"
  | .server => "Server"

/-- How a stream is weighed against the others. -/
structure Priority where
  dependency : StreamId
  weight : UInt8
  exclusive : Bool
deriving DecidableEq, Repr

/-- A stream that says nothing depends on the connection with weight 16, which the
wire shows as 15. -/
def Priority.standard : Priority := ⟨.connection, 15, false⟩

instance : Inhabited Priority := ⟨.standard⟩

/-- The diagnostic text of a priority. -/
def Priority.dump (p : Priority) : String :=
  Dump.record "Priority"
    [("dependency", p.dependency.dump), ("weight", Dump.number p.weight.toNat),
      ("exclusive", Dump.flag p.exclusive)]

/-- The eight octets that a ping carries, as one word. -/
structure PingPayload where
  word : UInt64
deriving DecidableEq, Repr, Inhabited

/-- The octets of a ping, most significant first. -/
def PingPayload.octets (p : PingPayload) : Bytes := Bytes.ofWord p.word

/-- The diagnostic text of a ping's octets. -/
def PingPayload.dump (p : PingPayload) : String :=
  Dump.wrap "PingPayload" [Dump.listing (p.octets.map fun b => Dump.number b.toNat)]

/-- The flag octet of a frame. -/
structure FrameFlags where
  val : UInt8
deriving DecidableEq, Repr, Inhabited

namespace FrameFlags

/-- Bit of a frame that ends its stream. -/
def endStream : UInt8 := 0x1

/-- Bit of a frame that acknowledges another. -/
def ack : UInt8 := 0x1

/-- Bit of a frame that ends a header block. -/
def endHeaders : UInt8 := 0x4

/-- Bit of a frame with padding. -/
def padded : UInt8 := 0x8

/-- Bit of a frame with priority. -/
def priority : UInt8 := 0x20

/-- Whether every bit of a mask is set. -/
def contains (f : FrameFlags) (mask : UInt8) : Bool := f.val &&& mask == mask

/-- The diagnostic text of flags. -/
def dump (f : FrameFlags) : String := Dump.wrap "FrameFlags" [Dump.number f.val.toNat]

end FrameFlags

/-- A decoded frame. -/
inductive Frame where
  /-- A piece of a body.  `window` is what the piece costs in the inbound window; it
  stays what it was when the piece is decoded further. -/
  | data (stream : StreamId) (data : Bytes) (padding : UInt8) (ends : Bool) (window : UInt32)
  | headers (stream : StreamId) (headers : Headers) (priority : Option Priority)
      (padding : UInt8) (ends : Bool)
  | priority (stream : StreamId) (priority : Priority)
  | reset (stream : StreamId) (code : ErrorCode)
  | settings (settings : Settings)
  | settingsAck
  | ping (payload : PingPayload)
  | pingAck (payload : PingPayload)
  | pushPromise (stream promised : StreamId) (headers : Headers) (padding : UInt8)
  | goAway (last : StreamId) (code : ErrorCode) (debug : Bytes)
  | windowUpdate (stream : StreamId) (increment : UInt32)
  | unknown (type : UInt8) (stream : StreamId) (flags : FrameFlags) (payload : Bytes)
deriving DecidableEq, Repr, Inhabited

/-- The kinds of frames; headers with a priority are a kind of their own. -/
inductive FrameKind where
  | data
  | headers
  | priorityHeaders
  | priority
  | reset
  | settings
  | settingsAck
  | ping
  | pingAck
  | pushPromise
  | goAway
  | windowUpdate
  | unknown
deriving DecidableEq, Repr, Inhabited

namespace FrameKind

/-- Every kind, in a fixed order. -/
def all : List FrameKind :=
  [.data, .headers, .priorityHeaders, .priority, .reset, .settings, .settingsAck, .ping,
    .pingAck, .pushPromise, .goAway, .windowUpdate, .unknown]

/-- The name of a kind in messages. -/
def display : FrameKind → String
  | .data => "DATA"
  | .headers => "HEADERS"
  | .priorityHeaders => "HEADERS(priority)"
  | .priority => "PRIORITY"
  | .reset => "RST_STREAM"
  | .settings => "SETTINGS"
  | .settingsAck => "SETTINGS(ack)"
  | .ping => "PING"
  | .pingAck => "PING(ack)"
  | .pushPromise => "PUSH_PROMISE"
  | .goAway => "GOAWAY"
  | .windowUpdate => "WINDOW_UPDATE"
  | .unknown => "UNKNOWN"

/-- The diagnostic text of a kind. -/
def dump : FrameKind → String
  | .data => "Data"
  | .headers => "Headers"
  | .priorityHeaders => "PriorityHeaders"
  | .priority => "Priority"
  | .reset => "RstStream"
  | .settings => "Settings"
  | .settingsAck => "SettingsAck"
  | .ping => "Ping"
  | .pingAck => "PingAck"
  | .pushPromise => "PushPromise"
  | .goAway => "GoAway"
  | .windowUpdate => "WindowUpdate"
  | .unknown => "Unknown"

end FrameKind

namespace Frame

/-- The kind of a frame. -/
def kind : Frame → FrameKind
  | .data .. => .data
  | .headers _ _ none _ _ => .headers
  | .headers _ _ (some _) _ _ => .priorityHeaders
  | .priority .. => .priority
  | .reset .. => .reset
  | .settings _ => .settings
  | .settingsAck => .settingsAck
  | .ping _ => .ping
  | .pingAck _ => .pingAck
  | .pushPromise .. => .pushPromise
  | .goAway .. => .goAway
  | .windowUpdate .. => .windowUpdate
  | .unknown .. => .unknown

/-- The stream a frame is about; a frame about the connection has none. -/
def stream? : Frame → Option StreamId
  | .data s .. | .headers s .. | .priority s _ | .reset s _ | .pushPromise s ..
  | .windowUpdate s _ | .unknown _ s _ _ => if s.isConnection then none else some s
  | .settings _ | .settingsAck | .ping _ | .pingAck _ | .goAway .. => none

/-- The diagnostic text of a frame. -/
def dump (f : Frame) : String :=
  let number (b : UInt8) := Dump.number b.toNat
  match f with
  | .data s d pad ends window =>
      Dump.record "Data"
        [("stream_id", s.dump), ("data", Quoted.bytes d), ("padding", number pad),
          ("end_of_stream", Dump.flag ends), ("window_bytes", Dump.number window.toNat)]
  | .headers s h prio pad ends =>
      Dump.record "Headers"
        [("stream_id", s.dump), ("headers", h.dump),
          ("priority", Dump.optional (prio.map Priority.dump)), ("padding", number pad),
          ("end_of_stream", Dump.flag ends)]
  | .priority s p => Dump.record "Priority" [("stream_id", s.dump), ("priority", p.dump)]
  | .reset s c => Dump.record "RstStream" [("stream_id", s.dump), ("error_code", c.dump)]
  | .settings s => Dump.wrap "Settings" [s.dump]
  | .settingsAck => "SettingsAck"
  | .ping p => Dump.wrap "Ping" [p.dump]
  | .pingAck p => Dump.wrap "PingAck" [p.dump]
  | .pushPromise s p h pad =>
      Dump.record "PushPromise"
        [("stream_id", s.dump), ("promised_stream_id", p.dump), ("headers", h.dump),
          ("padding", number pad)]
  | .goAway last c d =>
      Dump.record "GoAway"
        [("last_stream_id", last.dump), ("error_code", c.dump), ("debug_data", Quoted.bytes d)]
  | .windowUpdate s inc =>
      Dump.record "WindowUpdate"
        [("stream_id", s.dump), ("increment", Dump.number inc.toNat)]
  | .unknown t s fl p =>
      Dump.record "Unknown"
        [("frame_type", number t), ("stream_id", s.dump), ("flags", fl.dump),
          ("payload", Quoted.bytes p)]

end Frame

end FrameBridge
