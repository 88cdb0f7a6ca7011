import FrameBridge.Bridge.Callbacks

/-!
# Reactions to errors

The connection is told of a violation first, then the writes that it asked for are
made, and only then does the codec react: it resets the stream, or announces the
end of the connection and asks for the transport to be closed.

Any other error ends the connection as an internal failure.  Errors that come up
while the transport is being closed are dropped.
-/

namespace FrameBridge

variable {κ σ δ : Type} [Codec κ]

/-- The codec's reaction to a violation. -/
def Outlet.react (o : Outlet κ) (e : ProtocolError) : Outlet κ :=
  let o := o.refer e
  match Codec.ownReaction o.codec e, e with
  | some step, _ => (o.call (fun _ => .react e) step).2
  | none, .stream s c _ => (o.encode (.reset s c) .void).flush
  | none, .connection c _ =>
      ((o.encode (.goAway (Codec.lastRemote o.codec) c (Bytes.ofText e.display)) .void).flush).close

namespace Turn

variable [Connection σ]

/-- What the operator and the connection are told of a violation. -/
def announce (t : Turn κ σ δ) (e : ProtocolError) : Run (Turn κ σ δ) :=
  match e with
  | .stream s _ _ => (t.notice (.streamError t.bridge.id s e)).handOver (.streamError s e)
  | .connection .. => (t.notice (.connectionError t.bridge.id e)).handOver (.connectionError e)

/-- Handles a violation. -/
def onError (t : Turn κ σ δ) (e : ProtocolError) : Run (Turn κ σ δ) :=
  (t.announce e).andThen fun t => .done (t.catchUp.onOutlet (·.react e))

/-- Counts an error that is handled, and tells the operator of it. -/
def reportException (t : Turn κ σ δ) (e : BridgeError) : Turn κ σ δ :=
  if e.isContractViolation then
    (t.notice (.contractViolated t.bridge.id e)).meter (·.countError .contract)
  else (t.notice (.uncaughtError t.bridge.id e)).meter (·.countError .exception)

/-- Handles any error, and closes the transport. -/
def onException (t : Turn κ σ δ) (e : BridgeError) : Run (Turn κ σ δ) :=
  -- A channel may be about to close before the bridge's own state says so.
  if t.bridge.state.isEnding || t.bridge.channel.closeRequested then
    .done (t.notice (.errorIgnored t.bridge.id e))
  else ((t.reportException e).onError e.asProtocolError).andThen fun t => .done t.close

end Turn

end FrameBridge
