import FrameBridge.Text.Bytes

/-!
# Reading UTF-8

Octets are read as UTF-8 in two ways.  `decode?` refuses octets that are not
well formed.  `decodeLossy` always answers: each longest piece that could have
been the start of a character, and is not a whole one, becomes a single
replacement character.
-/

namespace FrameBridge.Utf8

/-- What the octets after a leading octet make of it: a character with the number
of octets that belong to it beside the first, or nothing, with the number of
octets that are lost together with the first. -/
structure Reading where
  char : Option Char
  extra : Nat

/-- An octet that continues a character. -/
def isTail (b : UInt8) : Bool :=
  0x80 ≤ b && b ≤ 0xbf

/-- The six payload bits of a continuing octet. -/
def tailBits (b : UInt8) : Nat :=
  b.toNat % 64

/-- Reads `n` more continuing octets onto the bits gathered so far. -/
def readTails (bits taken : Nat) : Nat → Bytes → Reading
  | 0, _ => ⟨some (Char.ofNat bits), taken⟩
  | _ + 1, [] => ⟨none, taken⟩
  | n + 1, b :: rest =>
      if isTail b then readTails (bits * 64 + tailBits b) (taken + 1) n rest
      else ⟨none, taken⟩

/-- Reads a character whose second octet is confined to the given range. -/
def readConfined (bits : Nat) (low high : UInt8) (n : Nat) : Bytes → Reading
  | [] => ⟨none, 0⟩
  | b :: rest =>
      if low ≤ b && b ≤ high then readTails (bits * 64 + tailBits b) 1 n rest
      else ⟨none, 0⟩

/-- Reads the character that starts with the octet `b`.  The confined ranges keep
out overlong forms, surrogates and code points above U+10FFFF. -/
def read (b : UInt8) (rest : Bytes) : Reading :=
  if b < 0x80 then ⟨some (Char.ofNat b.toNat), 0⟩
  else if b < 0xc2 then ⟨none, 0⟩
  else if b < 0xe0 then readTails (b.toNat % 32) 0 1 rest
  else if b = 0xe0 then readConfined 0 0xa0 0xbf 1 rest
  else if b = 0xed then readConfined 13 0x80 0x9f 1 rest
  else if b < 0xf0 then readConfined (b.toNat % 16) 0x80 0xbf 1 rest
  else if b = 0xf0 then readConfined 0 0x90 0xbf 2 rest
  else if b < 0xf4 then readConfined (b.toNat % 8) 0x80 0xbf 2 rest
  else if b = 0xf4 then readConfined 4 0x80 0x8f 2 rest
  else ⟨none, 0⟩

/-- The characters of well-formed octets, and nothing for any others. -/
def decodeChars? : Bytes → Option (List Char)
  | [] => some []
  | b :: rest =>
      let r := read b rest
      match r.char with
      | none => none
      | some c => (decodeChars? (rest.drop r.extra)).map (c :: ·)
termination_by xs => xs.length
decreasing_by
  rw [List.length_cons, List.length_drop]
  omega

/-- The text of well-formed octets, and nothing for any others. -/
def decode? (xs : Bytes) : Option String :=
  (decodeChars? xs).map String.ofList

/-- Stands where octets could not be read. -/
def replacement : Char := '\ufffd'

/-- The characters of any octets. -/
def decodeCharsLossy : Bytes → List Char
  | [] => []
  | b :: rest =>
      let r := read b rest
      r.char.getD replacement :: decodeCharsLossy (rest.drop r.extra)
termination_by xs => xs.length
decreasing_by
  rw [List.length_cons, List.length_drop]
  omega

/-- The text of any octets. -/
def decodeLossy (xs : Bytes) : String :=
  String.ofList (decodeCharsLossy xs)

/-- Splits characters into lines.  A line ends after a line feed, or at the end of
the characters; the line feed, and a carriage return before it, are not part of
it, and no empty line is made of an end. -/
def linesOf (line : List Char) : List Char → List (List Char)
  | [] => if line.isEmpty then [] else [line.reverse]
  | c :: rest =>
      if c = '\n' then
        (match line with
          | '\r' :: shorter => shorter.reverse
          | _ => line.reverse) :: linesOf [] rest
      else linesOf (c :: line) rest

/-- The lines of octets that hold text records. -/
def records (xs : Bytes) : List String :=
  (linesOf [] (decodeCharsLossy xs)).map String.ofList

end FrameBridge.Utf8
