import FrameBridge.Protocol.Event
import FrameBridge.Wire.Promise

/-!
# Channels

The outbound side of a transport as the bridge sees it.  Encoded frames are
buffered until a flush hands them to the transport, and the codec leaves here
what it wants to be known: notifications of what it did and faults of writes.

Every operation is a function on the channel.  Operations that end writes return
the resolutions they cause, in the order in which they happen.
-/

namespace FrameBridge

/-- An encoded frame on its way to the transport. -/
structure Outbound where
  bytes : Bytes
  promise : Promise
deriving DecidableEq, Repr, Inhabited

/-- The diagnostic text of an encoded frame. -/
def Outbound.dump (o : Outbound) : String :=
  Dump.record "Outbound" [("bytes", Quoted.bytes o.bytes), ("promise", o.promise.dump)]

/-- The state of a channel.  A new channel is open and empty. -/
structure Channel where
  isOpen : Bool := true
  closeRequested : Bool := false
  pending : List Outbound := []
  flushed : List Outbound := []
  notifications : List Event := []
  faults : List BridgeError := []
  flushes : Nat := 0
deriving Repr, Inhabited

namespace Channel

/-- Whether writes are accepted. -/
def isActive (c : Channel) : Bool := c.isOpen && !c.closeRequested

/-- Whether a fault waits to be handled. -/
def hasFault (c : Channel) : Bool := !c.faults.isEmpty

/-- Buffers a frame until the next flush.  A channel that is not active ends the
write at once. -/
def write (c : Channel) (o : Outbound) : Channel × List Resolution :=
  if c.isActive then ({ c with pending := c.pending ++ [o] }, [])
  else (c, [o.promise.abandoned])

/-- Hands every buffered frame to the transport. -/
def flush (c : Channel) : Channel :=
  { c with flushed := c.flushed ++ c.pending, pending := [], flushes := c.flushes + 1 }

/-- Asks for the transport to be closed once flushed frames are out. -/
def requestClose (c : Channel) : Channel :=
  { c with closeRequested := true }

/-- The flushed frames in the order of their writes, and the channel without them. -/
def takeFlushed (c : Channel) : List Outbound × Channel :=
  (c.flushed, { c with flushed := [] })

/-- Leaves a notification. -/
def notify (c : Channel) (e : Event) : Channel :=
  { c with notifications := c.notifications ++ [e] }

/-- Leaves a fault. -/
def raise (c : Channel) (e : BridgeError) : Channel :=
  { c with faults := c.faults ++ [e] }

/-- The transport is gone: frames that did not reach it are abandoned, those that
were not flushed first. -/
def markInactive (c : Channel) : Channel × List Resolution :=
  ({ c with isOpen := false, pending := [], flushed := [] },
    (c.pending ++ c.flushed).map fun o => o.promise.abandoned)

/-- The diagnostic text of a channel. -/
def dump (c : Channel) : String :=
  Dump.record "Channel"
    [("open", Dump.flag c.isOpen),
      ("close_requested", Dump.flag c.closeRequested),
      ("pending", Dump.listing (c.pending.map Outbound.dump)),
      ("flushed", Dump.listing (c.flushed.map Outbound.dump)),
      ("notifications", Dump.listing (c.notifications.map Event.dump)),
      ("faults", Dump.listing (c.faults.map BridgeError.dump)),
      ("flushes", Dump.number c.flushes)]

/-- The frames that are abandoned are all that the channel held. -/
theorem promises_markInactive (c : Channel) :
    c.markInactive.2.map (·.promise) = (c.pending ++ c.flushed).map (·.promise) := by
  simp [markInactive, Promise.abandoned, Function.comp_def]

@[simp] theorem write_of_active {c : Channel} (h : c.isActive = true) (o : Outbound) :
    c.write o = ({ c with pending := c.pending ++ [o] }, []) := by
  simp [write, h]

@[simp] theorem write_of_inactive {c : Channel} (h : c.isActive = false) (o : Outbound) :
    c.write o = (c, [o.promise.abandoned]) := by
  simp [write, h]

@[simp] theorem isActive_flush (c : Channel) : c.flush.isActive = c.isActive := rfl

@[simp] theorem isActive_requestClose (c : Channel) : c.requestClose.isActive = false := by
  simp [requestClose, isActive]

@[simp] theorem isActive_markInactive (c : Channel) : c.markInactive.1.isActive = false := by
  simp [markInactive, isActive]

end Channel

/-- What may be done to a finished batch of frames: the first ones succeed, and the
rest fail with an error or are dropped. -/
def resolveBatch (frames : List Outbound) (succeeding : Nat) (rest : Option BridgeError) :
    List Resolution :=
  (frames.take succeeding).map (fun o => ⟨o.promise, .ok ()⟩) ++
    (frames.drop succeeding).map fun o =>
      match rest with
      | some e => ⟨o.promise, .error e⟩
      | none => o.promise.abandoned

end FrameBridge
