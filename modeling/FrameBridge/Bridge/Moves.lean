import FrameBridge.Bridge.Entries

/-!
# Moves

The ways into a bridge as data, so that a run of a bridge from outside is a list of
moves.  A bridge may be entered in any order and any number of times.
-/

namespace FrameBridge

/-- A way into a bridge. -/
inductive Entrance where
  | activate
  | deactivate
  | close
  | decode (input : Bytes)
  | event (event : Event)
  | write (actions : List Action)
  | withConnection (actions : List Action)
  | idle (kind : IdleKind)
  | exception (error : BridgeError)
deriving DecidableEq, Repr, Inhabited

/-- What may be done to a bridge from outside. -/
inductive Move where
  | enter (entrance : Entrance)
  /-- A command is performed, wherever it comes from. -/
  | apply (command : Command)
deriving DecidableEq, Repr, Inhabited

namespace Turn

variable {κ σ δ : Type} [Codec κ] [Connection σ] [Decoder δ]

/-- Enters a bridge.  Input that is left over is not kept here. -/
def enterBy (rounds : Nat) (t : Turn κ σ δ) : Entrance → Run (Turn κ σ δ)
  | .activate => t.activate rounds
  | .deactivate => t.deactivate rounds
  | .close => .done t.close
  | .decode input => (t.decode rounds input).2
  | .event e => t.handleEvent rounds e
  | .write actions => t.write rounds actions
  | .withConnection actions => t.withConnection rounds actions
  | .idle k => t.onIdle rounds k
  | .exception e => t.exceptionCaught rounds e

/-- Makes one move. -/
def move (rounds : Nat) (t : Turn κ σ δ) : Move → Run (Turn κ σ δ)
  | .enter e => t.enterBy rounds e
  | .apply c => t.apply rounds c

/-- Makes moves in order, as long as each comes to its end. -/
def moves (rounds : Nat) (ms : List Move) (t : Turn κ σ δ) : Run (Turn κ σ δ) :=
  Run.each (move rounds) ms t

end Turn

end FrameBridge
