import FrameBridge.Text.Bytes

/-!
# Bits ahead of octets

Compressed data is read as a row of bits, the lowest bit of an octet first.  Whole
octets are loaded into a reservoir, from which bits are taken; octets that turn
out not to be needed go back to the input.
-/

namespace FrameBridge.Deflate

/-- Bits that have been loaded, the next one lowest. -/
structure Reservoir where
  value : Nat := 0
  count : Nat := 0
deriving DecidableEq, Repr, Inhabited

namespace Reservoir

/-- Puts an octet behind the bits. -/
def push (r : Reservoir) (b : UInt8) : Reservoir :=
  { value := r.value + b.toNat <<< r.count, count := r.count + 8 }

/-- The next `n` bits as a number. -/
def low (r : Reservoir) (n : Nat) : Nat := r.value % (1 <<< n)

/-- The bits behind the next `n`. -/
def drop (r : Reservoir) (n : Nat) : Reservoir :=
  { value := r.value >>> n, count := r.count - n }

/-- The bits ahead of the whole octets. -/
def broken (r : Reservoir) : Reservoir :=
  { value := r.low (r.count % 8), count := r.count % 8 }

/-- The whole octets at the end. -/
def octets (r : Reservoir) : Bytes :=
  (List.range (r.count / 8)).map fun i => .ofNat (r.value >>> (r.count % 8 + 8 * i))

end Reservoir

/-- Bits that have been loaded, and the octets behind them. -/
structure BitSource where
  bits : Reservoir := {}
  input : Bytes
deriving DecidableEq, Repr, Inhabited

/-- Whether a list has at least so many octets. -/
def hasOctets : Nat → Bytes → Bool
  | 0, _ => true
  | _ + 1, [] => false
  | n + 1, _ :: bs => hasOctets n bs

namespace BitSource

/-- The number of bits that are still to come. -/
def size (s : BitSource) : Nat := s.bits.count + 8 * s.input.length

/-- Loads so many octets, or all there are. -/
def load : Nat → BitSource → BitSource
  | 0, s => s
  | n + 1, ⟨bits, b :: input⟩ => load n ⟨bits.push b, input⟩
  | _ + 1, s => s

/-- Loads as many octets as it takes to have `n` bits. -/
def loadBits (s : BitSource) (n : Nat) : BitSource :=
  s.load ((n - s.bits.count + 7) / 8)

/-- Takes `n` bits out. -/
def drop (s : BitSource) (n : Nat) : BitSource :=
  { s with bits := s.bits.drop n }

/-- Gives back the octets that were loaded and not touched. -/
def giveBack (s : BitSource) : BitSource :=
  { bits := s.bits.broken, input := s.bits.octets ++ s.input }

end BitSource

end FrameBridge.Deflate
