import FrameBridge.Rehearsal.Inflate.BitSource

/-!
# Prefix codes

A prefix code is given by the length of each symbol's code word.  Words of one
length are consecutive numbers in the order of the symbols, and start where the
words of the length below leave off, so a word is found by counting alone.

A code must use up every word of 15 bits.  Where it is allowed to, a code has one
symbol with a word of one bit, or no symbol at all; such a code leaves words over,
which stand for nothing.
-/

namespace FrameBridge.Deflate

/-- A prefix code: for each length the symbols with words of that length, from one bit up to
the longest word. -/
structure Code where
  levels : List (Array Nat)
deriving Repr, Inhabited

/-- What the next bits lead to. -/
inductive Found where
  /-- A symbol, and the length of its word. -/
  | symbol (symbol length : Nat)
  /-- There are too few bits to tell. -/
  | short
  /-- No word starts like this. -/
  | nothing
deriving DecidableEq, Repr, Inhabited

namespace Code

/-- The greatest length of a word. -/
def maxLength : Nat := 15

/-- The number of words of the greatest length. -/
def wordCount : Nat := 0x8000

/-- The symbols whose words have a length, in order. -/
def level (lengths : List Nat) (n : Nat) : Array Nat :=
  (lengths.zipIdx.filterMap fun (length, symbol) =>
    if length = n then some symbol else none).toArray

/-- The number of words of 15 bits that are used up. -/
def weight (levels : List (Array Nat)) : Nat :=
  levels.foldl (fun total level => 2 * total + level.size) 0

/-- The code with the given lengths, unless it is not allowed. -/
def ofLengths? (mayBeOpen : Bool) (lengths : List Nat) : Option Code :=
  let longest := lengths.foldl max 0
  let levels := (List.range maxLength).map fun n => level lengths (n + 1)
  let used := weight levels
  if used = wordCount || (mayBeOpen && used < wordCount && longest ≤ 1) then
    some { levels := levels.take longest }
  else none

/-- Finds the word at the start of some bits, of which `n` have been read; `offset` is the
number of the word so far, counted from the first word of its length. -/
def search : List (Array Nat) → Reservoir → Nat → Nat → Found
  | [], _, _, _ => .nothing
  | level :: levels, bits, n, offset =>
      if bits.count = 0 then .short
      else
        let offset := 2 * offset + bits.low 1
        match level[offset]? with
        | some symbol => .symbol symbol (n + 1)
        | none => search levels (bits.drop 1) (n + 1) (offset - level.size)

/-- Finds the word at the start of some bits. -/
def find (c : Code) (bits : Reservoir) : Found :=
  if bits.count = 0 then .short else search c.levels bits 0 0

end Code

end FrameBridge.Deflate
