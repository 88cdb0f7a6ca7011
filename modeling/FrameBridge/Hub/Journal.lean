import FrameBridge.Application.Connection
import FrameBridge.Wire.Channel
import FrameBridge.Wire.Codec

/-!
# The journal

Everything that crosses the border of a bridge is entered in one journal, in the
order in which it happens: calls to the codec, to the connection, to the
connection's factory and to hooks, frames that the channel accepts, writes that
end, and answers to questions.  The journal is what statements about the order of
events speak of.
-/

namespace FrameBridge

/-- The two moments at which hooks run. -/
inductive HookKind where
  | established
  | removed
deriving DecidableEq, Repr, Inhabited

/-- The name of a moment. -/
def HookKind.display : HookKind → String
  | .established => "established"
  | .removed => "removed"

/-- The answer to a question that application code asked. -/
inductive Answer where
  | pushed (result : Except BridgeError StreamId)
  | isWritable (value : Bool)
  | isActive (value : Bool)
  | isClosed (value : Bool)
deriving Repr, Inhabited

/-- Something that happened. -/
inductive Entry where
  | codec (call : CodecCall)
  /-- The channel took a frame in. -/
  | accepted (frame : Outbound)
  /-- The channel handed its frames to the transport. -/
  | flushed
  /-- The connection's factory ran. -/
  | created
  /-- Work was handed over to the connection from the input side. -/
  | handedOver
  | callback (call : Callback)
  | hook (kind : HookKind) (index : Nat)
  /-- A factory of decoders was asked for a coding. -/
  | asked (encoding : String)
  /-- A watched write ended. -/
  | resolved (watch : Watch) (outcome : Outcome)
  | answered (answer : Answer)
  /-- A loop that was entered from within another one has been left. -/
  | innerDone
deriving Repr, Inhabited

/-- Something that happened, and at which bridge. -/
structure Record where
  loop : LoopId
  entry : Entry
deriving Repr, Inhabited

end FrameBridge
