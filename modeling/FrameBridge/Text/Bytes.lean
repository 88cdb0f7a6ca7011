/-!
# Octets

Everything that crosses the wire is a list of octets.  This module fixes the
type and the two ways in which a text becomes octets and octets are compared:
UTF-8 encoding, and equality that ignores the case of ASCII letters.
-/

namespace FrameBridge

/-- Octets in the order in which they stand on the wire. -/
abbrev Bytes := List UInt8

namespace Bytes

/-- The UTF-8 encoding of a text. -/
def ofText (text : String) : Bytes :=
  text.toUTF8.toList

/-- `A` to `Z` become `a` to `z`; every other octet stays. -/
def lowerOctet (b : UInt8) : UInt8 :=
  if 0x41 ≤ b && b ≤ 0x5a then b + 0x20 else b

/-- `a` to `z` become `A` to `Z`; every other octet stays. -/
def upperOctet (b : UInt8) : UInt8 :=
  if 0x61 ≤ b && b ≤ 0x7a then b - 0x20 else b

/-- Two octet strings are the same name when they differ at most in the case of
ASCII letters. -/
def sameName (xs ys : Bytes) : Bool :=
  xs.map lowerOctet == ys.map lowerOctet

/-- Every name is the same as itself. -/
theorem sameName_refl (xs : Bytes) : sameName xs xs = true := by
  simp [sameName]

/-- Sameness of names does not depend on their order. -/
theorem sameName_comm (xs ys : Bytes) : sameName xs ys = sameName ys xs := by
  rw [Bool.eq_iff_iff]
  simp only [sameName, beq_iff_eq]
  exact eq_comm

/-- Big-endian octets of a 64-bit word. -/
def ofWord (n : UInt64) : Bytes :=
  ([56, 48, 40, 32, 24, 16, 8, 0] : List UInt64).map fun shift => (n >>> shift).toUInt8

end Bytes

end FrameBridge
