import FrameBridge.Loop.EventLoop
import FrameBridge.Rehearsal.Pipe
import FrameBridge.Rehearsal.Stage

/-!
# Stages for a loop

A stage for rehearsals of a whole loop: the loop runs over a pipe, the peer is at the
other end, and time passes only where a step says so.  After every step the loop
runs until it has to wait.
-/

namespace FrameBridge

/-- A loop over a pipe, and the time. -/
structure LoopStage (δ : Type) where
  loop : EventLoop LineCodec Script δ Pipe
  now : Nat := 0
  hasPeer : Bool := true

/-- One step of a rehearsal. -/
inductive LoopStep where
  | send (data : Bytes)
  | receive
  | sleep (ms : Nat)
  /-- Uses handles from outside of the loop. -/
  | handle (actions : List Action)
  | shutDown
  /-- The peer goes away. -/
  | hangUp
  /-- The peer writes no more. -/
  | halfClose
  /-- Steps between which the loop does not run. -/
  | batch (steps : List LoopStep)
deriving Repr, Inhabited

/-- The answer to a step. -/
inductive LoopReply where
  | nothing
  | noPeer
  | sent (count : Nat) (isBroken : Bool)
  | received (records : List String) (isEnd : Bool)
  | batch (replies : List LoopReply)
deriving Repr, Inhabited

namespace LoopStage

variable {δ : Type}

/-- Changes the pipe. -/
def onPipe (s : LoopStage δ) (f : Pipe → Pipe) : LoopStage δ :=
  { s with loop := { s.loop with transport := f s.loop.transport } }

/-- Uses handles from outside of the loop. -/
def handle (s : LoopStage δ) (actions : List Action) : LoopStage δ :=
  let run := s.loop.turn.program false .connection actions
  { s with loop := { s.loop with turn := run.state } }

/-- Plays a step that takes no time and lets nothing run. -/
def playAtOnce (s : LoopStage δ) : LoopStep → LoopReply × LoopStage δ
  | .send data =>
      if s.hasPeer then
        let (count, isBroken, pipe) := s.loop.transport.send data
        (.sent count isBroken, s.onPipe fun _ => pipe)
      else (.noPeer, s)
  | .handle actions => (.nothing, s.handle actions)
  | .shutDown => (.nothing, { s with loop := { s.loop with isShutDown := true } })
  | .hangUp => (.nothing, { s.onPipe Pipe.release with hasPeer := false })
  | .halfClose => (.nothing, s.onPipe Pipe.endInbound)
  | .receive | .sleep _ | .batch _ => (.nothing, s)

/-- Plays steps one after the other. -/
def playAll : List LoopStep → LoopStage δ → List LoopReply × LoopStage δ
  | [], s => ([], s)
  | step :: steps, s =>
      let (reply, s) := s.playAtOnce step
      let (replies, s) := playAll steps s
      (reply :: replies, s)

variable [Decoder δ]

/-- Lets the loop run until it has to wait. -/
def settle (rounds : Nat) (s : LoopStage δ) : LoopStage δ :=
  { s with loop := s.loop.run rounds s.now rounds }

/-- How often the peer looks into the pipe in one step. -/
def maxLooks : Nat := 64

/-- The peer takes what is there, as often as the loop writes more, but looks at most so many
times.  The answer also says whether the peer saw the end. -/
def receive (rounds : Nat) : Nat → LoopStage δ → Bytes × Bool × LoopStage δ
  | 0, s => ([], false, s)
  | n + 1, s =>
      let (xs, pipe) := s.loop.transport.receive
      if xs.isEmpty then ([], pipe.outbound.isClosed, s)
      else
        let (ys, isEnd, s) := receive rounds n ((s.onPipe fun _ => pipe).settle rounds)
        (xs ++ ys, isEnd, s)

/-- Lets time pass, with a stop at each time for which the loop waits. -/
def sleepUntil (rounds time : Nat) : Nat → LoopStage δ → LoopStage δ
  | 0, s => s
  | n + 1, s =>
      match s.loop.deadline? with
      | none => { s with now := time }.settle rounds
      | some due =>
          if due ≤ time then
            sleepUntil rounds time n ({ s with now := max s.now due }.settle rounds)
          else { s with now := time }.settle rounds

/-- Plays one step, and lets the loop run. -/
def play (rounds : Nat) (s : LoopStage δ) : LoopStep → LoopReply × LoopStage δ
  | .receive =>
      if s.hasPeer then
        let (xs, isEnd, s) := receive rounds maxLooks s
        (.received (Utf8.records xs) isEnd, s)
      else (.noPeer, s)
  | .sleep ms => (.nothing, sleepUntil rounds (s.now + ms) rounds s)
  | .batch steps =>
      let (replies, s) := playAll steps s
      (.batch replies, s.settle rounds)
  | step =>
      let (reply, s) := s.playAtOnce step
      (reply, s.settle rounds)

/-- Everything that is left is dropped. -/
def clear (s : LoopStage δ) : Hub :=
  let hub := s.loop.release.dropBridge.turn.hub
  match s.loop.phase with
  | .delivering d =>
      hub.resolveAll ((d.written ++ d.waiting.map (·.promise)).map Promise.abandoned)
  | .starting | .polling | .finished | .stopped _ => hub

end LoopStage

end FrameBridge
