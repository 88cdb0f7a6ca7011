import FrameBridge.Loop.Transport

/-!
# Pipes

A transport for rehearsals: two rows of octets of limited length, one in each
direction, with the peer at the other end.  A pipe can be told beforehand to fail.
-/

namespace FrameBridge

/-- One direction of a pipe. -/
structure PipeLane where
  octets : Bytes := []
  isClosed : Bool := false
deriving DecidableEq, Repr, Inhabited

/-- A pipe, seen from the loop. -/
structure Pipe where
  inbound : PipeLane := {}
  outbound : PipeLane := {}
  /-- The octets that a direction holds at most. -/
  size : Nat := 4096
  /-- The octets that one write takes at most. -/
  chunk : Option Nat := none
  /-- How many reads, writes and flushes are left before they fail, where they fail at all. -/
  readsLeft : Option Nat := none
  writesLeft : Option Nat := none
  flushesLeft : Option Nat := none
  shutdownFails : Bool := false
deriving DecidableEq, Repr, Inhabited

namespace Pipe

/-- One operation fewer is left. -/
def countDown (left : Option Nat) : Option Nat := left.map (· - 1)

/-- Reads what is there. -/
def read (p : Pipe) (n : Nat) : Poll Bytes × Pipe :=
  if p.readsLeft = some 0 then (.failed "read failed", p)
  else if p.inbound.octets.isEmpty && !p.inbound.isClosed then (.pending, p)
  else
    (.ready (p.inbound.octets.take n),
      { p with
        inbound := { p.inbound with octets := p.inbound.octets.drop n }
        readsLeft := countDown p.readsLeft })

/-- Writes as much as there is room for. -/
def write (p : Pipe) (xs : Bytes) : Poll Nat × Pipe :=
  if p.writesLeft = some 0 then (.failed "write failed", p)
  else if p.outbound.isClosed then (.failed "broken pipe", p)
  else
    let room := p.size - p.outbound.octets.length
    if room = 0 then (.pending, p)
    else
      let n := min (min xs.length room) (p.chunk.getD xs.length)
      (.ready n,
        { p with
          outbound := { p.outbound with octets := p.outbound.octets ++ xs.take n }
          writesLeft := countDown p.writesLeft })

/-- Nothing is held back, so a flush only counts. -/
def flush (p : Pipe) : Except String Unit × Pipe :=
  if p.flushesLeft = some 0 then (.error "flush failed", p)
  else (.ok (), { p with flushesLeft := countDown p.flushesLeft })

/-- Closes the direction to the peer. -/
def shutdown (p : Pipe) : Except String Unit × Pipe :=
  if p.shutdownFails then (.error "shutdown failed", p)
  else (.ok (), { p with outbound := { p.outbound with isClosed := true } })

/-- Closes both directions. -/
def release (p : Pipe) : Pipe :=
  { p with
    inbound := { p.inbound with isClosed := true }
    outbound := { p.outbound with isClosed := true } }

instance : Transport Pipe := ⟨read, write, flush, shutdown, release⟩

/-! ### The peer's end -/

/-- The peer writes as much as there is room for.  The answer says how much, and whether
the pipe is closed. -/
def send (p : Pipe) (xs : Bytes) : Nat × Bool × Pipe :=
  if xs.isEmpty then (0, false, p)
  else if p.inbound.isClosed then (0, true, p)
  else
    let n := min xs.length (p.size - p.inbound.octets.length)
    (n, false, { p with inbound := { p.inbound with octets := p.inbound.octets ++ xs.take n } })

/-- The peer takes everything that is there. -/
def receive (p : Pipe) : Bytes × Pipe :=
  (p.outbound.octets, { p with outbound := { p.outbound with octets := [] } })

/-- The peer ends its direction. -/
def endInbound (p : Pipe) : Pipe :=
  { p with inbound := { p.inbound with isClosed := true } }

end Pipe

end FrameBridge
