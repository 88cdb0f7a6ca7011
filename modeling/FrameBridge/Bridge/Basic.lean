import FrameBridge.Bridge.Lifecycle
import FrameBridge.Bridge.Outlet
import FrameBridge.Decoding.Listener

/-!
# Bridges

A bridge stands between the codec of one session and the application's
connection.  The connection is absent until the peer's first settings arrive, and
present from then on.

A bridge does nothing by itself: it is changed in turns, each of which starts with
an entry from outside.  A turn is the bridge together with the hub.
-/

namespace FrameBridge

/-- Application code that runs when a connection is created and when it goes away.  Each
hook is a list of actions. -/
structure Hooks where
  established : List (List Action) := []
  removed : List (List Action) := []
deriving Repr, Inhabited

namespace Hooks

/-- The hooks of a moment. -/
def of (h : Hooks) : HookKind → List (List Action)
  | .established => h.established
  | .removed => h.removed

/-- Whether there is no hook. -/
def isEmpty (h : Hooks) : Bool := h.established.isEmpty && h.removed.isEmpty

/-- The diagnostic text of hooks. -/
def dump (h : Hooks) : String :=
  Dump.record "BridgeHooks"
    [("on_connection_established", Dump.number h.established.length),
      ("on_connection_removed", Dump.number h.removed.length)]

end Hooks

/-- A connection that exists, and the listener in front of it if bodies are decoded. -/
structure Session (σ δ : Type) where
  connection : σ
  listener : Option (Listener δ)

/-- The bridge of one session. -/
structure Bridge (κ σ δ : Type) where
  id : LoopId
  codec : κ
  channel : Channel := {}
  session : Option (Session σ δ) := none
  /-- What the connection starts as, until it is created. -/
  blueprint : Option σ
  hooks : Hooks := {}
  decoders : Option (DecoderSource δ) := none
  upgrade : Option Upgrade := none
  state : Lifecycle := .created

namespace Bridge

variable {κ σ δ : Type}

/-- Whether the connection exists. -/
def isEstablished (b : Bridge κ σ δ) : Bool := b.session.isSome

/-- Whether bodies are decoded before they reach the connection. -/
def isDecoding (b : Bridge κ σ δ) : Bool := b.session.any (·.listener.isSome)

/-- The diagnostic text of a bridge. -/
def dump (b : Bridge κ σ δ) : String :=
  Dump.openRecord "Http2Bridge"
    [("id", b.id.dump), ("state", b.state.dump), ("connection", Dump.flag b.isEstablished),
      ("channel", b.channel.dump)]

end Bridge

/-- A bridge while it works. -/
structure Turn (κ σ δ : Type) where
  bridge : Bridge κ σ δ
  hub : Hub

namespace Turn

variable {κ σ δ : Type}

/-- Enters something into the journal. -/
def record (t : Turn κ σ δ) (e : Entry) : Turn κ σ δ :=
  { t with hub := t.hub.record t.bridge.id e }

/-- Tells the operator. -/
def notice (t : Turn κ σ δ) (n : Notice) : Turn κ σ δ :=
  { t with hub := t.hub.notice n }

/-- Changes the metrics. -/
def meter (t : Turn κ σ δ) (f : Metrics → Metrics) : Turn κ σ δ :=
  { t with hub := t.hub.meter f }

/-- Goes on to a later state of the bridge's life. -/
def advance (t : Turn κ σ δ) (next : Lifecycle) : Turn κ σ δ :=
  { t with bridge := { t.bridge with state := t.bridge.state.advance next } }

/-- The outbound side of the bridge. -/
def outlet (t : Turn κ σ δ) : Outlet κ :=
  ⟨t.bridge.id, t.bridge.codec, t.bridge.channel, t.hub⟩

/-- The turn with another outbound side. -/
def withOutlet (t : Turn κ σ δ) (o : Outlet κ) : Turn κ σ δ :=
  { bridge := { t.bridge with id := o.home, codec := o.codec, channel := o.channel }
    hub := o.hub }

/-- Changes the outbound side. -/
def onOutlet (t : Turn κ σ δ) (f : Outlet κ → Outlet κ) : Turn κ σ δ :=
  t.withOutlet (f t.outlet)

/-- Changes the channel. -/
def onChannel (t : Turn κ σ δ) (f : Channel → Channel) : Turn κ σ δ :=
  { t with bridge := { t.bridge with channel := f t.bridge.channel } }

@[simp] theorem withOutlet_outlet (t : Turn κ σ δ) : t.withOutlet t.outlet = t := rfl

@[simp] theorem outlet_withOutlet (t : Turn κ σ δ) (o : Outlet κ) :
    (t.withOutlet o).outlet = o := rfl

@[simp] theorem withOutlet_withOutlet (t : Turn κ σ δ) (o p : Outlet κ) :
    (t.withOutlet o).withOutlet p = t.withOutlet p := rfl

variable [Codec κ]

/-- Performs the commands queued inline. -/
def catchUp (t : Turn κ σ δ) : Turn κ σ δ := t.onOutlet .catchUp

/-- Runs application code on the loop of the bridge. -/
def program (hasWriter : Bool) (now : StreamId) (actions : List Action) (t : Turn κ σ δ) :
    Run (Turn κ σ δ) :=
  (t.outlet.program hasWriter now actions).map t.withOutlet

/-- Runs hooks in the order in which they were registered, counting from `index`. -/
def runHooks (kind : HookKind) : Nat → List (List Action) → Turn κ σ δ → Run (Turn κ σ δ)
  | _, [], t => .done t
  | index, hook :: hooks, t =>
      ((t.record (.hook kind index)).program false .connection hook).andThen
        (runHooks kind (index + 1) hooks)

/-- Asks for the transport to be closed. -/
def close (t : Turn κ σ δ) : Turn κ σ δ :=
  (t.onOutlet .close).advance .closing

end Turn

end FrameBridge
