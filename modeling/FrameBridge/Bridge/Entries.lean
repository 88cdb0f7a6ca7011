import FrameBridge.Bridge.Routing

/-!
# Entries

The ways into a bridge.  Each entry runs in the scope of the bridge's loop, and
before it returns everything that it brought about is settled: faults that writes
left behind, commands queued inline, and notifications of the codec.

Settling may go on for ever with an application that answers each answer, so every
entry is given a number of rounds; with too few of them its run stops as
`Stop.unsettled`.
-/

namespace FrameBridge.Turn

variable {κ σ δ : Type}

/-- Whether nothing is left to settle. -/
def isSettled (t : Turn κ σ δ) : Bool :=
  t.bridge.channel.faults.isEmpty && t.bridge.channel.notifications.isEmpty &&
    (t.hub.scope.all (·.inline.isEmpty))

/-- Runs code in the scope of the bridge's loop.  Commands that are left inline at the end
are dropped. -/
def onLoop (t : Turn κ σ δ) (body : Turn κ σ δ → Run (Turn κ σ δ)) : Run (Turn κ σ δ) :=
  (body { t with hub := t.hub.enter t.bridge.id }).map fun t' =>
    { t' with hub := t'.hub.leave t.bridge.id t.hub.scope }

variable [Codec κ] [Connection σ] [Decoder δ]

/-- Settles faults before commands, and commands before notifications, until nothing is
left. -/
def settle : Nat → Turn κ σ δ → Run (Turn κ σ δ)
  | 0, t => if t.isSettled then .done t else .stopped .unsettled t
  | n + 1, t =>
      match t.bridge.channel.faults with
      | fault :: faults =>
          ((t.onChannel ({ · with faults })).onException fault).andThen (settle n)
      | [] =>
          -- A command may leave a fault, so faults are looked at again before anything else.
          if t.hub.scope.any (!·.inline.isEmpty) then settle n t.catchUp
          else
            match t.bridge.channel.notifications with
            | e :: notifications =>
                ((t.onChannel ({ · with notifications })).route e).andThen (settle n)
            | [] => .done t

/-- Runs one entry. -/
def enter (rounds : Nat) (t : Turn κ σ δ) (body : Turn κ σ δ → Run (Turn κ σ δ)) :
    Run (Turn κ σ δ) :=
  t.onLoop fun t => (body t).andThen (settle rounds)

/-- Applies the upgrade that the session came from. -/
def applyUpgrade (t : Turn κ σ δ) : Turn κ σ δ :=
  let o := t.outlet
  let later := { t with bridge := { t.bridge with upgrade := none } }
  match t.bridge.upgrade with
  | none => later
  | some (.server s) =>
      later.withOutlet (.orRaise
        (o.call (fun _ => .upgradeServer s) (Codec.upgradeServer o.codec s)))
  | some .client =>
      later.withOutlet (.orRaise (o.call (fun _ => .upgradeClient) (Codec.upgradeClient o.codec)))

/-- The transport is up: the preface is written, an upgrade is applied, and both are
flushed. -/
def activate (rounds : Nat) (t : Turn κ σ δ) : Run (Turn κ σ δ) :=
  t.enter rounds fun t =>
    let t := t.onOutlet fun o => (o.call (fun _ => .preface) (Codec.activate o.codec)).2
    let t := (t.advance .prefaceSent).applyUpgrade
    .done ((t.onOutlet .flush).notice (.bridgeActive t.bridge.id))

/-- The codec lets go of its streams. -/
def letGo (t : Turn κ σ δ) : Turn κ σ δ :=
  t.catchUp.onOutlet fun o => (o.call (fun _ => .inactive) (Codec.deactivate o.codec)).2

/-- The channel is shut, and the frames that did not reach the transport are dropped. -/
def shut (t : Turn κ σ δ) : Turn κ σ δ :=
  let (channel, ended) := t.bridge.channel.markInactive
  { bridge := { t.bridge with channel }, hub := t.hub.resolveAll ended }

/-- Tells the connection that the transport is gone, and runs the last hooks. -/
def sayGoodbye (t : Turn κ σ δ) : Run (Turn κ σ δ) :=
  if t.bridge.isEstablished then
    (t.handOver .closed).andThen (runHooks .removed 0 t.bridge.hooks.removed)
  else .done (t.notice (.closedEarly t.bridge.id))

/-- The bridge comes to its end. -/
def tearDown (t : Turn κ σ δ) : Run (Turn κ σ δ) :=
  t.shut.sayGoodbye.andThen fun t =>
    let t := { t with bridge := { t.bridge with state := .closed } }
    .done (t.notice (.bridgeInactive t.bridge.id))

/-- The transport is gone.  The codec lets go of its streams first, then the connection is
told, and then nothing more happens.  A closed bridge stays as it is. -/
def deactivate (rounds : Nat) (t : Turn κ σ δ) : Run (Turn κ σ δ) :=
  if t.bridge.state = .closed then .done t
  else t.enter rounds fun t => (t.letGo.settle rounds).andThen tearDown

/-- Decodes input and routes each event, settling in between.  The answer holds the input
that is left. -/
def decode (rounds : Nat) (t : Turn κ σ δ) (input : Bytes) : Bytes × Run (Turn κ σ δ) :=
  let step := Codec.decode t.bridge.codec input
  (step.result.rest,
    t.enter rounds fun t =>
      let o := t.outlet
      let o := step.requests.foldl Outlet.carryOut { o with codec := step.codec }
      Run.each (fun t e => (t.route e).andThen (settle rounds)) step.result.events
        (t.withOutlet o))

/-- Routes one event as if it had just been decoded. -/
def handleEvent (rounds : Nat) (t : Turn κ σ δ) (e : Event) : Run (Turn κ σ δ) :=
  t.enter rounds fun t => t.route e

/-- Makes the write of a command from the queue. -/
def apply (rounds : Nat) (t : Turn κ σ δ) (c : Command) : Run (Turn κ σ δ) :=
  t.enter rounds fun t => .done (t.onOutlet (·.write c))

/-- Runs application code with a writer. -/
def write (rounds : Nat) (t : Turn κ σ δ) (actions : List Action) : Run (Turn κ σ δ) :=
  t.enter rounds (program true .connection actions)

/-- Runs application code with a writer if the connection exists. -/
def withConnection (rounds : Nat) (t : Turn κ σ δ) (actions : List Action) :
    Run (Turn κ σ δ) :=
  t.enter rounds (program true .connection (if t.bridge.isEstablished then actions else []))

/-- The transport was idle.  Only idleness in both directions closes it. -/
def onIdle (rounds : Nat) (t : Turn κ σ δ) (k : IdleKind) : Run (Turn κ σ δ) :=
  t.enter rounds fun t =>
    match k with
    | .all => .done (t.notice (.closingIdle t.bridge.id)).close
    | .reader | .writer => .done (t.notice (.idleIgnored t.bridge.id k))

/-- An error from outside the bridge. -/
def exceptionCaught (rounds : Nat) (t : Turn κ σ δ) (e : BridgeError) : Run (Turn κ σ δ) :=
  t.enter rounds fun t => t.onException e

end FrameBridge.Turn
