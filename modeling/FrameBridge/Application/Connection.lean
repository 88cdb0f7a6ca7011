import FrameBridge.Application.Action
import FrameBridge.Protocol.Event

/-!
# The interface of connections

The application's side of a session is a connection.  It is created when the
peer's first settings arrive and is then told of every frame and of everything
else that happens to the session.  The bridge knows a connection only by this
interface: a state, and the actions with which it answers a callback.
-/

namespace FrameBridge

/-- A call from the bridge to the connection. -/
inductive Callback where
  /-- The peer's first settings. -/
  | settings (settings : Settings)
  /-- Any frame after that. -/
  | frame (frame : Frame)
  | goAway (goAway : GoAway)
  | streamClosed (stream : StreamId)
  | writabilityChanged (stream : StreamId)
  | connectionError (error : ProtocolError)
  | streamError (stream : StreamId) (error : ProtocolError)
  /-- The transport is gone. -/
  | closed
deriving DecidableEq, Repr, Inhabited

namespace Callback

/-- The stream a callback is about; the connection stands in where there is none. -/
def currentStream : Callback → StreamId
  | .settings _ | .connectionError _ | .closed => .connection
  | .frame f => f.stream?.getD .connection
  | .goAway g => g.last
  | .streamClosed s | .writabilityChanged s | .streamError s _ => s

/-- Whether the callback is given a writer. -/
def hasWriter : Callback → Bool
  | .settings _ | .frame _ | .streamClosed _ | .writabilityChanged _ => true
  | .goAway _ | .connectionError _ | .streamError .. | .closed => false

end Callback

/-- A connection with states of type `σ`. -/
class Connection (σ : Type) where
  /-- The next state and the actions with which a callback is answered. -/
  respond : σ → Callback → σ × List Action
  /-- Whether work handed over from the input side is done at once, or never. -/
  runsHandedOver : σ → Bool := fun _ => true
  /-- Whether the connection has a frame callback of its own.  One without is told of
  headers with a priority, and lets every other frame pass. -/
  takesFrames : σ → Bool := fun _ => true
  /-- What the factory does with the handle of the bridge while it creates the connection. -/
  prepare : σ → List Action := fun _ => []

end FrameBridge
