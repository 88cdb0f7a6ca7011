import FrameBridge.Protocol.Event
import FrameBridge.Wire.Command

/-!
# The interface of codecs

A codec owns the layout of frames, the compression of headers and the windows of
the streams.  The bridge knows a codec only by this interface: a state, and
functions that answer with the next state and with requests to the channel.  A
codec does nothing else to the world around it, and it flushes only where it
takes a reaction to an error into its own hands.
-/

namespace FrameBridge

/-- What the bridge asks a codec to encode. -/
inductive Outgoing where
  | headers (stream : StreamId) (headers : Headers) (padding : UInt8) (ends : Bool)
  | data (stream : StreamId) (data : Bytes) (padding : UInt8) (ends : Bool)
  | ping (ack : Bool) (payload : PingPayload)
  | reset (stream : StreamId) (code : ErrorCode)
  | goAway (last : StreamId) (code : ErrorCode) (debug : Bytes)
  | settings (settings : Settings)
  | pushPromise (stream promised : StreamId) (headers : Headers) (padding : UInt8)
  | frame (type : UInt8) (stream : StreamId) (flags : FrameFlags) (payload : Bytes)
deriving DecidableEq, Repr, Inhabited

/-- The frame that a command asks for; padding is never asked for. -/
def Command.outgoing : Command → Outgoing
  | .headers s h ends => .headers s h 0 ends
  | .data s d ends => .data s d 0 ends
  | .ping n _ => .ping false n
  | .frame s t f d => .frame t s f d
  | .reset s c => .reset s c
  | .goAway c last d => .goAway last c d
  | .settings s _ => .settings s
  | .pushPromise s promised h _ => .pushPromise s promised h 0

/-- What a codec may ask of the channel. -/
inductive ChannelRequest where
  | write (bytes : Bytes) (promise : Promise)
  | notify (event : Event)
  | raise (error : BridgeError)
  | flush
  | close
deriving DecidableEq, Repr, Inhabited

/-- The answer of a codec: its next state, its requests in order, and a result. -/
structure CodecStep (κ α : Type) where
  codec : κ
  requests : List ChannelRequest
  result : α

/-- What a codec made of its input: the events in order, and the octets that are not
consumed yet. -/
structure Decoded where
  events : List Event
  rest : Bytes
deriving DecidableEq, Repr, Inhabited

/-- A codec with states of type `κ`. -/
class Codec (κ : Type) where
  /-- Writes the preface of the connection. -/
  activate : κ → CodecStep κ Unit
  /-- Lets go of its streams when the transport is gone. -/
  deactivate : κ → CodecStep κ Unit
  /-- Applies the settings that came with an upgrade request to a server. -/
  upgradeServer : κ → Settings → CodecStep κ (Except ProtocolError Unit)
  /-- Takes note of an upgrade that this client asked for. -/
  upgradeClient : κ → CodecStep κ (Except ProtocolError Unit)
  /-- Decodes as many whole frames as the input holds. -/
  decode : κ → Bytes → CodecStep κ Decoded
  /-- Encodes one frame, which carries the promise to the channel. -/
  encode : κ → Outgoing → Promise → CodecStep κ Unit
  /-- Whether the peer's window lets more octets of a stream through. -/
  isWritable : κ → StreamId → Bool
  /-- Writes all that the peer's windows allow now. -/
  drain : κ → CodecStep κ (Except ProtocolError Unit)
  /-- Gives octets back to the window of a stream; the result says whether the peer
  was told. -/
  consume : κ → StreamId → UInt32 → CodecStep κ (Except ProtocolError Bool)
  /-- The highest stream that the peer has opened. -/
  lastRemote : κ → StreamId
  /-- A reaction to an error, in place of the usual one. -/
  ownReaction : κ → ProtocolError → Option (CodecStep κ Unit) := fun _ _ => none

/-- A call that the bridge made to its codec, with the result where a result decides
what is on the wire. -/
inductive CodecCall where
  | preface
  | inactive
  | upgradeServer (settings : Settings)
  | upgradeClient
  | encode (frame : Outgoing)
  | drain (result : Except ProtocolError Unit)
  | consume (stream : StreamId) (amount : UInt32) (result : Except ProtocolError Bool)
  | react (error : ProtocolError)
deriving Repr, Inhabited

end FrameBridge
