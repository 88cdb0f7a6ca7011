import FrameBridge.Text.Bytes

/-!
# The interface of transports

A transport carries octets to and from the peer.  Reading and writing may have to
wait, and everything but going away may fail; a failure is known by its message.
-/

namespace FrameBridge

/-- The answer of an operation that may have to wait, and may fail. -/
inductive Poll (α : Type) where
  | pending
  | ready (value : α)
  | failed (message : String)
deriving DecidableEq, Repr, Inhabited

/-- A transport with states of type `τ`. -/
class Transport (τ : Type) where
  /-- Reads at most so many octets; none at all means that the peer sends no more. -/
  read : τ → Nat → Poll Bytes × τ
  /-- Writes a part of some octets, and says how many. -/
  write : τ → Bytes → Poll Nat × τ
  /-- Sends on what was written. -/
  flush : τ → Except String Unit × τ
  /-- Tells the peer that nothing more is written. -/
  shutdown : τ → Except String Unit × τ
  /-- Lets go of the transport. -/
  release : τ → τ

end FrameBridge
