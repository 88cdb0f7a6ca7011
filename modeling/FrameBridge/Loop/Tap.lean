import FrameBridge.Loop.Transport

/-!
# Taps

A tap lies around a transport and notes the octets that the transport took, in order, and
whether it ever failed to take any.  To the loop it is the transport itself.
-/

namespace FrameBridge

/-- A transport with a tap around it. -/
structure Tap (τ : Type) where
  inner : τ
  /-- The octets that the transport took so far. -/
  taken : Bytes := []
  /-- Whether a write or a flush has failed. -/
  hasFailed : Bool := false

namespace Tap

variable {τ : Type} [Transport τ]

/-- Reads from the transport. -/
def read (t : Tap τ) (n : Nat) : Poll Bytes × Tap τ :=
  let (answer, inner) := Transport.read t.inner n
  (answer, { t with inner })

/-- Writes to the transport.  A write that takes nothing has failed. -/
def write (t : Tap τ) (xs : Bytes) : Poll Nat × Tap τ :=
  match Transport.write t.inner xs with
  | (.pending, inner) => (.pending, { t with inner })
  | (.ready n, inner) =>
      (.ready n,
        { t with inner, taken := t.taken ++ xs.take n, hasFailed := t.hasFailed || n == 0 })
  | (.failed m, inner) => (.failed m, { t with inner, hasFailed := true })

/-- Flushes the transport. -/
def flush (t : Tap τ) : Except String Unit × Tap τ :=
  match Transport.flush t.inner with
  | (.ok u, inner) => (.ok u, { t with inner })
  | (.error m, inner) => (.error m, { t with inner, hasFailed := true })

/-- Shuts the transport down. -/
def shutdown (t : Tap τ) : Except String Unit × Tap τ :=
  let (answer, inner) := Transport.shutdown t.inner
  (answer, { t with inner })

/-- Lets go of the transport. -/
def release (t : Tap τ) : Tap τ := { t with inner := Transport.release t.inner }

instance : Transport (Tap τ) := ⟨read, write, flush, shutdown, release⟩

end Tap

end FrameBridge
