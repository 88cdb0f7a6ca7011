import FrameBridge.Bridge.Builder
import FrameBridge.Loop.EventLoop
import FrameBridge.Loop.Tap

/-!
# The course of a loop

What may happen to a loop from its start on, in any order: it takes a step at some time, its
handles are used from elsewhere, it is asked to shut down, and the peer and the transport do
what they do.
-/

namespace FrameBridge

/-- What happens next to a loop. -/
inductive LoopMove (κ τ : Type) where
  /-- The loop takes a step at a time, if it does not have to wait. -/
  | step (now : Nat)
  /-- A handle is used from outside of every loop. -/
  | use (target : Option LoopId) (action : HandleAction)
  | shutDown
  /-- Something happens to the transport. -/
  | elsewhere (transport : τ)
  /-- The codec is told something from outside. -/
  | recode (codec : κ)

namespace EventLoop

variable {κ σ δ τ : Type}

/-- The loop of a bridge that was just built, where callbacks run the given code. -/
def ofBuilder (b : Builder κ σ δ) (reactions : List Reaction) (transport : τ)
    (isSupervised : Bool) : EventLoop κ σ δ (Tap τ) :=
  .ofTurn (b.build { reactions }) { inner := transport } b.idle b.capacity isSupervised

variable [Transport τ] [Codec κ] [Connection σ] [Decoder δ]

/-- Lets one thing happen. -/
def move (rounds : Nat) (l : EventLoop κ σ δ (Tap τ)) : LoopMove κ τ → EventLoop κ σ δ (Tap τ)
  | .step now => (l.step rounds now).getD l
  | .use target a => l.onHub (·.use (target.getD l.id) true .connection a)
  | .shutDown => { l with isShutDown := true }
  | .elsewhere inner => { l with transport := { l.transport with inner } }
  | .recode codec => { l with turn := { l.turn with bridge := { l.turn.bridge with codec } } }

/-- Lets one thing happen after the other. -/
def moves (rounds : Nat) (ms : List (LoopMove κ τ)) (l : EventLoop κ σ δ (Tap τ)) :
    EventLoop κ σ δ (Tap τ) :=
  ms.foldl (move rounds) l

end EventLoop

end FrameBridge
