import FrameBridge.Bridge.Builder
import FrameBridge.Bridge.Moves

/-!
# Driving a bridge

Whoever drives a bridge enters it, takes commands out of its queue and frames off its
channel, and decides what becomes of them: a command is applied or dropped, and the write of
a frame succeeds, fails or is dropped.  Nothing is said of the order in which this happens.

A driver goes on with a bridge in which application code panicked.
-/

namespace FrameBridge

/-- A bridge, with the commands and the frames that its driver has taken and not dealt with. -/
structure Drive (κ σ δ : Type) where
  turn : Turn κ σ δ
  commands : List Command := []
  frames : List Outbound := []

/-- What a driver does next. -/
inductive DriveStep (κ : Type) where
  | enter (entrance : Entrance)
  /-- A handle is used from outside of every loop. -/
  | use (target : Option LoopId) (action : HandleAction)
  /-- Takes the oldest command out of the queue. -/
  | receive
  /-- Applies one of the commands that were taken. -/
  | apply (index : Nat)
  | drop (index : Nat)
  /-- The queue goes away with what is in it. -/
  | dropQueue
  /-- Takes the flushed frames off the channel. -/
  | take
  /-- The write of one of the frames that were taken ends.  It is dropped by ending with
  `BridgeError.channelClosed`. -/
  | finish (index : Nat) (outcome : Outcome)
  /-- The codec is told something from outside. -/
  | recode (codec : κ)

namespace Drive

variable {κ σ δ : Type}

/-- The driver of a bridge that was just built, where callbacks run the given code. -/
def start (b : Builder κ σ δ) (reactions : List Reaction) : Drive κ σ δ :=
  { turn := b.build { reactions } }

/-- Changes the hub. -/
def onHub (d : Drive κ σ δ) (f : Hub → Hub) : Drive κ σ δ :=
  { d with turn := { d.turn with hub := f d.turn.hub } }

/-- The loop of the bridge. -/
def home (d : Drive κ σ δ) : LoopId := d.turn.bridge.id

variable [Codec κ] [Connection σ] [Decoder δ]

/-- Does one thing; a number under which there is nothing changes nothing. -/
def step (rounds : Nat) (d : Drive κ σ δ) : DriveStep κ → Drive κ σ δ
  | .enter e => { d with turn := (d.turn.enterBy rounds e).state }
  | .use target a => d.onHub (·.use (target.getD d.home) true .connection a)
  | .receive =>
      match d.turn.hub.nextCommand d.home with
      | none => d
      | some (c, hub) => { d with turn := { d.turn with hub }, commands := d.commands ++ [c] }
  | .apply index =>
      match d.commands[index]? with
      | none => d
      | some c =>
          { d with turn := (d.turn.apply rounds c).state, commands := d.commands.eraseIdx index }
  | .drop index =>
      match d.commands[index]? with
      | none => d
      | some c => { d with commands := d.commands.eraseIdx index }.onHub (·.abandon c.promise)
  | .dropQueue => d.onHub (·.closeMailbox d.home)
  | .take =>
      let (frames, channel) := d.turn.bridge.channel.takeFlushed
      { d with
        turn := { d.turn with bridge := { d.turn.bridge with channel } }
        frames := d.frames ++ frames }
  | .finish index outcome =>
      match d.frames[index]? with
      | none => d
      | some f =>
          { d with frames := d.frames.eraseIdx index }.onHub (·.resolve ⟨f.promise, outcome⟩)
  | .recode codec => { d with turn := { d.turn with bridge := { d.turn.bridge with codec } } }

/-- Does one thing after the other. -/
def run (rounds : Nat) (steps : List (DriveStep κ)) (d : Drive κ σ δ) : Drive κ σ δ :=
  steps.foldl (step rounds) d

end Drive

end FrameBridge
