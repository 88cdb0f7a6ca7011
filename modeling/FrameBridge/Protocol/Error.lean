import FrameBridge.Protocol.Frame

/-!
# Errors

A `ProtocolError` says that the peer, or the bookkeeping of a stream, went
wrong; it concerns the whole connection or one stream.  A `BridgeError` is
anything that can go wrong at the bridge.  Errors are kept as causes and become
text only where they are shown.
-/

namespace FrameBridge

/-- A violation of the protocol. -/
inductive ProtocolError where
  /-- The connection cannot go on. -/
  | connection (code : ErrorCode) (message : String)
  /-- One stream cannot go on. -/
  | stream (stream : StreamId) (code : ErrorCode) (message : String)
deriving DecidableEq, Repr, Inhabited

namespace ProtocolError

/-- The code to put on the wire. -/
def code : ProtocolError → ErrorCode
  | .connection c _ => c
  | .stream _ c _ => c

/-- The stream concerned, if it is only one. -/
def stream? : ProtocolError → Option StreamId
  | .connection .. => none
  | .stream s .. => some s

/-- The message of a violation. -/
def display : ProtocolError → String
  | .connection c m => "connection error (" ++ c.display ++ "): " ++ m
  | .stream s c m => "stream " ++ s.display ++ " error (" ++ c.display ++ "): " ++ m

/-- The diagnostic text of a violation. -/
def dump : ProtocolError → String
  | .connection c m => Dump.record "Connection" [("code", c.dump), ("message", Quoted.text m)]
  | .stream s c m =>
      Dump.record "Stream"
        [("stream_id", s.dump), ("code", c.dump), ("message", Quoted.text m)]

end ProtocolError

/-- What can go wrong at a bridge. -/
inductive BridgeError where
  /-- A frame that the bridge has no business with. -/
  | unsupported (kind : FrameKind)
  /-- A frame for a connection that does not exist yet. -/
  | connectionAbsent (kind : FrameKind)
  /-- The channel closed before a write was through. -/
  | channelClosed
  /-- No identifier is left for a promised stream. -/
  | streamIdsExhausted
  /-- A violation of the protocol. -/
  | protocol (error : ProtocolError)
  /-- The transport failed. -/
  | transport (message : String)
deriving DecidableEq, Repr, Inhabited

namespace BridgeError

/-- Whether the error shows that codec and bridge are wired up wrongly. -/
def isContractViolation : BridgeError → Bool
  | .unsupported _ | .connectionAbsent _ => true
  | _ => false

/-- The message of an error. -/
def display : BridgeError → String
  | .unsupported k => k.display ++ " frames are not handled at the bridge layer"
  | .connectionAbsent k => k.display ++ " received before the connection was established"
  | .channelClosed => "channel closed"
  | .streamIdsExhausted => "local stream identifiers exhausted"
  | .protocol e => e.display
  | .transport m => "transport error: " ++ m

/-- The diagnostic text of an error. -/
def dump : BridgeError → String
  | .unsupported k => Dump.wrap "Unsupported" [k.dump]
  | .connectionAbsent k => Dump.wrap "ConnectionAbsent" [k.dump]
  | .channelClosed => "ChannelClosed"
  | .streamIdsExhausted => "StreamIdsExhausted"
  | .protocol e => Dump.wrap "Protocol" [e.dump]
  | .transport m =>
      Dump.wrap "Io"
        [Dump.record "Custom" [("kind", "Other"), ("error", Quoted.text m)]]

/-- The error as a violation of the protocol: any other cause counts as an internal
failure of the connection. -/
def asProtocolError : BridgeError → ProtocolError
  | .protocol e => e
  | e => .connection .internalError e.display

end BridgeError

end FrameBridge
