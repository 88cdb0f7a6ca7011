import FrameBridge.Text.Bytes

/-!
# Checksums

The two checksums that frame compressed data: a polynomial remainder of 32 bits
and a pair of sums modulo 65521.
-/

namespace FrameBridge.Checksum

/-- One bit of the polynomial division, low bit first. -/
def crcBit (r : UInt32) : UInt32 :=
  if r &&& 1 = 1 then (r >>> 1) ^^^ 0xedb88320 else r >>> 1

/-- Takes one octet into the remainder. -/
def crcOctet (r : UInt32) (b : UInt8) : UInt32 :=
  (List.range 8).foldl (fun r _ => crcBit r) (r ^^^ b.toUInt32)

/-- The remainder of no octets, in the form in which it is kept. -/
def crcStart : UInt32 := 0xffffffff

/-- The remainder in the form in which it is written. -/
def crcEnd (r : UInt32) : UInt32 := r ^^^ 0xffffffff

/-- The two sums after one more octet. -/
def adlerOctet (s : Nat × Nat) (b : UInt8) : Nat × Nat :=
  let low := (s.1 + b.toNat) % 65521
  (low, (s.2 + low) % 65521)

/-- The polynomial checksum of octets. -/
def crc (xs : Bytes) : UInt32 :=
  crcEnd (xs.foldl crcOctet crcStart)

/-- The sums of octets as one number, the first sum in the low half. -/
def adler (xs : Bytes) : Nat :=
  let (low, high) := xs.foldl adlerOctet (1, 0)
  high * 0x10000 + low

/-- A number whose octets are given, the lowest first. -/
def littleEndian (xs : Bytes) : Nat :=
  xs.foldr (fun b n => b.toNat + 256 * n) 0

end FrameBridge.Checksum
