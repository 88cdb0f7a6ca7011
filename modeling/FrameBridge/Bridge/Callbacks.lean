import FrameBridge.Bridge.Basic

/-!
# Calls to the connection

The bridge tells a connection of one thing at a time.  The connection answers
with actions, and these run before the bridge goes on.
-/

namespace FrameBridge.Turn

variable {κ σ δ : Type} [Codec κ] [Connection σ]

/-- Calls a connection: its next state, and the run of its actions. -/
def callback (t : Turn κ σ δ) (connection : σ) (c : Callback) : σ × Run (Turn κ σ δ) :=
  let (next, actions) := Connection.respond connection c
  let t := t.record (.callback c)
  let t :=
    match c with
    | .frame f =>
        if Connection.takesFrames connection || f.kind == FrameKind.priorityHeaders then t
        else t.notice (.frameIgnored f)
    | _ => t
  (next, t.program c.hasWriter c.currentStream actions)

/-- Tells the connection of something, if it exists. -/
def tell (t : Turn κ σ δ) (c : Callback) : Run (Turn κ σ δ) :=
  match t.bridge.session with
  | none => .done t
  | some session =>
      let (connection, run) := t.callback session.connection c
      run.map fun t =>
        { t with bridge := { t.bridge with session := some { session with connection } } }

/-- Tells the connection of something from the input side, where the connection itself
settles whether the call is made. -/
def handOver (t : Turn κ σ δ) (c : Callback) : Run (Turn κ σ δ) :=
  match t.bridge.session with
  | none => .done t
  | some session =>
      let t := t.record .handedOver
      if Connection.runsHandedOver session.connection then t.tell c else .done t

/-- The peer's first settings: the connection is created, is told of them, and the hooks
run.  Only then does the bridge have a connection. -/
def establish (t : Turn κ σ δ) (blueprint : σ) (s : Settings) : Run (Turn κ σ δ) :=
  let t := { t with bridge := { t.bridge with blueprint := none } }
  let listener := t.bridge.decoders.map Listener.ofSource
  ((t.record .created).program false .connection (Connection.prepare blueprint)).andThen fun t =>
    let t := t.notice (.connectionEstablished t.bridge.id listener.isSome)
    let (connection, run) := (t.advance .settingsReceived).callback blueprint (.settings s)
    (run.andThen (runHooks .established 0 t.bridge.hooks.established)).andThen fun t =>
      .done { t with bridge := { t.bridge with session := some { connection, listener } } }

end FrameBridge.Turn
