import FrameBridge.Bridge.Entries
import FrameBridge.Loop.Delivery
import FrameBridge.Loop.ReadBuffer

/-!
# The event loop

A loop drives one bridge over one transport.  Again and again it looks for work in
a fixed order (a request to shut down, commands in the queue, input, idleness),
lets the bridge do the first it finds, and delivers what the bridge flushed.  It
leaves when the peer closes the transport, when the bridge wants it closed, or
when a delivery fails.

A step of the loop is a function of the loop and the time.  There is none while the
loop has to wait, and none after its end.

Before it looks for work a loop asks when it would be idle.  If there is no such time
this stops it, just as application code that panics does.
-/

namespace FrameBridge

/-- What a loop does next. -/
inductive LoopPhase where
  | starting
  /-- Looks for work. -/
  | polling
  | delivering (delivery : Delivery)
  /-- The loop has left. -/
  | finished
  /-- Application code stopped the loop, or time ran out. -/
  | stopped (why : Stop)
deriving Repr

/-- An event loop. -/
structure EventLoop (κ σ δ τ : Type) where
  turn : Turn κ σ δ
  transport : τ
  buffer : ReadBuffer
  idle : IdleConfig
  tracker : IdleTracker
  /-- Whether the loop was asked to shut down. -/
  isShutDown : Bool := false
  /-- Whether a panic is reported to the operator. -/
  isSupervised : Bool := false
  phase : LoopPhase := .starting

namespace EventLoop

variable {κ σ δ τ : Type}

/-- A loop that has not started. -/
def ofTurn (turn : Turn κ σ δ) (transport : τ) (idle : IdleConfig) (capacity : Nat)
    (isSupervised : Bool) : EventLoop κ σ δ τ :=
  { turn, transport, buffer := .ofCapacity capacity, idle, tracker := .start idle 0, isSupervised }

/-- The loop's name. -/
def id (l : EventLoop κ σ δ τ) : LoopId := l.turn.bridge.id

/-- Whether the loop goes on. -/
def isRunning (l : EventLoop κ σ δ τ) : Bool :=
  match l.phase with
  | .starting | .polling | .delivering _ => true
  | .finished | .stopped _ => false

/-- Changes the hub. -/
def onHub (l : EventLoop κ σ δ τ) (f : Hub → Hub) : EventLoop κ σ δ τ :=
  { l with turn := { l.turn with hub := f l.turn.hub } }

/-- Tells the operator. -/
def notice (l : EventLoop κ σ δ τ) (n : Notice) : EventLoop κ σ δ τ := l.onHub (·.notice n)

/-- The time at which a loop that waits for work has to look for idleness. -/
def deadline? (l : EventLoop κ σ δ τ) : Option Nat :=
  match l.phase with
  | .polling => l.tracker.nextDeadline?
  | .starting | .delivering _ | .finished | .stopped _ => none

variable [Transport τ]

/-- The loop lets go of its queue and its transport. -/
def release (l : EventLoop κ σ δ τ) : EventLoop κ σ δ τ :=
  let l := l.onHub fun h => (h.meter Metrics.loopEnded).closeMailbox l.id
  { l with transport := Transport.release l.transport }

/-- The frames that the bridge still holds are dropped with it. -/
def dropBridge (l : EventLoop κ σ δ τ) : EventLoop κ σ δ τ :=
  let (channel, ended) := l.turn.bridge.channel.markInactive
  { l with turn := ⟨{ l.turn.bridge with channel }, l.turn.hub.resolveAll ended⟩ }

/-- The loop is stopped: everything is let go of. -/
def stop (l : EventLoop κ σ δ τ) (why : Stop) : EventLoop κ σ δ τ :=
  let l := { l.release.dropBridge with phase := .stopped why }
  match why, l.isSupervised with
  | .panicked m, true =>
      (l.onHub (·.meter (·.countError .panic))).notice (.loopPanicked l.id m)
  | _, _ => l

/-- Goes on with the turn of a run, or stops. -/
def resume (l : EventLoop κ σ δ τ) (r : Run (Turn κ σ δ))
    (next : EventLoop κ σ δ τ → EventLoop κ σ δ τ) : EventLoop κ σ δ τ :=
  let l := { l with turn := r.state }
  match r.stop with
  | none => next l
  | some why => l.stop why

/-- Settles what follows a delivery that was not needed or is over: the loop leaves if the
bridge wants the transport closed. -/
def afterDelivery (l : EventLoop κ σ δ τ) (leave : EventLoop κ σ δ τ → EventLoop κ σ δ τ) :
    EventLoop κ σ δ τ :=
  if l.turn.bridge.channel.closeRequested then leave l else { l with phase := .polling }

/-- The end of a loop. -/
def finish (l : EventLoop κ σ δ τ) : EventLoop κ σ δ τ :=
  { (l.notice (.loopFinished l.id)).release with phase := .finished }

/-- Shuts the transport down.  A failure changes nothing; the operator is told of it. -/
def shutTransport (l : EventLoop κ σ δ τ) : EventLoop κ σ δ τ :=
  match Transport.shutdown l.transport with
  | (.ok _, transport) => { l with transport }
  | (.error m, transport) => { l with transport }.notice (.shutdownFailed l.id m)

variable [Codec κ] [Connection σ] [Decoder δ]

/-- Leaves: the transport is shut down, and the bridge is told that it is gone. -/
def leave (rounds : Nat) (l : EventLoop κ σ δ τ) : EventLoop κ σ δ τ :=
  let l := l.shutTransport
  l.resume (l.turn.deactivate rounds) finish

/-- Takes what the bridge flushed, to deliver it. -/
def deliver (rounds : Nat) (l : EventLoop κ σ δ τ) : EventLoop κ σ δ τ :=
  let (frames, channel) := l.turn.bridge.channel.takeFlushed
  let l := { l with turn := { l.turn with bridge := { l.turn.bridge with channel } } }
  if frames.isEmpty then l.afterDelivery (leave rounds)
  else { l with phase := .delivering { waiting := frames } }

/-- The loop starts: the bridge writes its preface. -/
def start (rounds now : Nat) (l : EventLoop κ σ δ τ) : EventLoop κ σ δ τ :=
  let l := l.onHub (·.meter Metrics.loopStarted)
  let l := l.notice (.loopStarted l.id l.turn.hub.metrics.runningLoops)
  let l := { l with tracker := .start l.idle now }
  l.resume (l.turn.activate rounds) (deliver rounds)

/-- Reports every kind of idleness that is due. -/
def reportIdle (rounds : Nat) (l : EventLoop κ σ δ τ) (kinds : List IdleKind) :
    EventLoop κ σ δ τ :=
  l.resume (Run.each (fun t k => t.onIdle rounds k) kinds l.turn) (deliver rounds)

/-- What was read is decoded. -/
def takeInput (rounds now : Nat) (l : EventLoop κ σ δ τ) (xs : Bytes) : EventLoop κ σ δ τ :=
  let buffer := l.buffer.append xs
  let (left, run) := l.turn.decode rounds buffer.data
  { l with buffer := buffer.consume left, tracker := l.tracker.recordRead now }.resume run
    (deliver rounds)

/-- Reports the kinds of idleness that are due, if there are any. -/
def lookIdle (rounds now : Nat) (l : EventLoop κ σ δ τ) : Option (EventLoop κ σ δ τ) :=
  match l.tracker.expireAll now with
  | .error why => some (l.stop why)
  | .ok ([], _) => none
  | .ok (kinds, tracker) => some ({ l with tracker }.reportIdle rounds kinds)

/-- Looks for work. -/
def look (rounds now : Nat) (l : EventLoop κ σ δ τ) : Option (EventLoop κ σ δ τ) :=
  -- What is looked at first wins: shutting down, then commands, input and idleness.
  if l.isShutDown then
    let l := l.notice (.shutdownRequested l.id)
    some ({ l with turn := l.turn.close }.deliver rounds)
  else
    match l.turn.hub.nextCommand l.id with
    | some (c, hub) =>
        let turn := { l.turn with hub }
        some ({ l with turn }.resume (turn.apply rounds c) (deliver rounds))
    | none =>
        let buffer := l.buffer.prepare
        match Transport.read l.transport buffer.room with
        | (.ready [], transport) =>
            some (({ l with buffer, transport }.notice (.transportClosed l.id)).leave rounds)
        | (.ready xs, transport) => some ({ l with buffer, transport }.takeInput rounds now xs)
        | (.failed m, transport) =>
            let l := { l with buffer, transport }.notice (.readFailed l.id m)
            some (l.resume (l.turn.exceptionCaught rounds (.transport m)) (deliver rounds))
        -- Only a loop that has nothing else to do notices that it is idle.
        | (.pending, _) => { l with buffer }.lookIdle rounds now

/-- Asks when the loop would be idle, and looks for work. -/
def poll (rounds now : Nat) (l : EventLoop κ σ δ τ) : Option (EventLoop κ σ δ τ) :=
  match l.tracker.nextDeadline with
  | .error why => some (l.stop why)
  | .ok _ => l.look rounds now

/-- Goes on with a delivery. -/
def goOn (rounds now : Nat) (l : EventLoop κ σ δ τ) (d : Delivery) :
    Option (EventLoop κ σ δ τ) :=
  match d.step l.transport with
  | .pending => none
  | .going d transport => some { l with transport, phase := .delivering d }
  | .ended failure resolutions transport =>
      match failure with
      | none =>
          let l := { l with transport, tracker := l.tracker.recordWrite now }
          some ((l.onHub (·.resolveAll resolutions)).afterDelivery (leave rounds))
      | some e =>
          let l := { l with transport }.onHub (·.resolveAll resolutions)
          some ((l.notice (.writeFailed l.id e)).leave rounds)

/-- Takes one step, if there is one. -/
def step (rounds now : Nat) (l : EventLoop κ σ δ τ) : Option (EventLoop κ σ δ τ) :=
  match l.phase with
  | .starting => some (l.start rounds now)
  | .polling => l.poll rounds now
  | .delivering d => l.goOn rounds now d
  | .finished | .stopped _ => none

/-- Takes steps until the loop has to wait or has ended; at most so many. -/
def run (rounds now : Nat) : Nat → EventLoop κ σ δ τ → EventLoop κ σ δ τ
  | 0, l => l
  | n + 1, l =>
      match l.step rounds now with
      | none => l
      | some l => l.run rounds now n

end EventLoop

end FrameBridge
