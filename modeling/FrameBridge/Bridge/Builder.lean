import FrameBridge.Bridge.Basic

/-!
# Building bridges

Everything that is configured about a bridge and its loop, and the bridge that
comes out of it.  A configuration starts on the server side, without an upgrade,
without decoding, and without watching for idleness.
-/

namespace FrameBridge

/-- The configuration of a bridge and its loop. -/
structure Builder (κ σ δ : Type) where
  codec : κ
  blueprint : σ
  role : Role := .server
  upgrade : Option Upgrade := none
  decoders : Option (DecoderSource δ) := none
  idle : IdleConfig := {}
  /-- The capacity that the buffer for input starts with. -/
  capacity : Nat := 16384
  hooks : Hooks := {}

namespace Builder

variable {κ σ δ : Type}

/-- Chooses the side of the session. -/
def onSide (b : Builder κ σ δ) (role : Role) : Builder κ σ δ := { b with role }

/-- The session came from an upgrade: a server got settings with the request, and a client
made the request. -/
def upgraded (b : Builder κ σ δ) (u : Upgrade) : Builder κ σ δ :=
  { b with
    upgrade := some u
    role := match u with
      | .server _ => .server
      | .client => .client }

/-- Decodes bodies with the decoders of a source. -/
def decoding (b : Builder κ σ δ) (source : DecoderSource δ) : Builder κ σ δ :=
  { b with decoders := some source }

/-- Watches for idleness in both directions, beside what is watched already. -/
def idleTimeout (b : Builder κ σ δ) (ms : Nat) : Builder κ σ δ :=
  { b with idle := { b.idle with timeouts := b.idle.timeouts.set .all (some ms) } }

/-- Adds a hook after those of its moment. -/
def addHook (b : Builder κ σ δ) (kind : HookKind) (hook : List Action) : Builder κ σ δ :=
  match kind with
  | .established => { b with hooks.established := b.hooks.established ++ [hook] }
  | .removed => { b with hooks.removed := b.hooks.removed ++ [hook] }

/-- The diagnostic text of a configuration. -/
def dump (b : Builder κ σ δ) : String :=
  Dump.openRecord "BridgeBuilder"
    [("role", b.role.dump), ("upgrade", Dump.optional (b.upgrade.map Upgrade.dump)),
      ("decompression", Dump.flag b.decoders.isSome), ("idle", b.idle.dump),
      ("read_buffer_capacity", Dump.number b.capacity), ("hooks", b.hooks.dump)]

/-- The identifiers that the session hands out. -/
def streams (b : Builder κ σ δ) : LocalStreams :=
  .start b.role (b.upgrade = some .client)

/-- The bridge, under the next free number of the hub. -/
def build (b : Builder κ σ δ) (hub : Hub) : Turn κ σ δ :=
  let id : LoopId := ⟨hub.mailboxes.length⟩
  { bridge :=
      { id
        codec := b.codec
        blueprint := some b.blueprint
        hooks := b.hooks
        decoders := b.decoders
        upgrade := b.upgrade }
    hub :=
      ({ hub with mailboxes := hub.mailboxes ++ [{ streams := b.streams }] } : Hub).notice
        (.bridgeCreated id b.role b.upgrade) }

end Builder

end FrameBridge
