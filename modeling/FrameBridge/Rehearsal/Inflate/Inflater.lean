import FrameBridge.Rehearsal.Inflate.Code

/-!
# Inflating

Compressed data in the deflate format is a row of bits.  The inflater works in
runs: a run is given octets of input and room for octets of output, and goes on
until the data ends, the input is used up, or there is something to write and no
room for it.  All that has been written is kept; a copy that reaches back beyond
the start finds zeros there.

Where plenty of input and room is left, octets are loaded four at a time, ahead
of need.  When a run stops for want of room, the octets that were loaded and not
touched go back to the input, so this can be told apart from loading on demand
in one place only: a stored octet that is loaded already is taken before there is
room for it.
-/

namespace FrameBridge.Deflate

/-- The two codes of a block. -/
structure Codes where
  literals : Code
  distances : Code
deriving Repr, Inhabited

/-- The lengths of a block's code words, while they are read. -/
structure Lengths where
  /-- The code in which the lengths themselves are written. -/
  code : Code
  literals : Nat
  distances : Nat
  /-- The lengths so far, last one first. -/
  known : List Nat := []
deriving Repr, Inhabited

/-- What a number is read for.  A copy is swift if there was plenty of input and room where it
starts. -/
inductive NumberUse where
  | blockStart
  | storedLength
  | tableSizes
  /-- The length of a code word of the code for lengths. -/
  | metaLength (literals distances left : Nat) (known : List Nat)
  /-- How often a length is repeated, beyond the least number of times. -/
  | repetition (lengths : Lengths) (length least : Nat)
  | copyLength (codes : Codes) (base : Nat) (isSwift : Bool)
  | copyDistance (codes : Codes) (length base : Nat) (isSwift : Bool)
deriving Repr, Inhabited

/-- What is done next. -/
inductive Phase where
  /-- A number of so many bits is read. -/
  | number (size : Nat) (use : NumberUse)
  /-- The length of a code word is read. -/
  | length (lengths : Lengths)
  | literal (codes : Codes)
  /-- An octet of a block is written. -/
  | literalReady (codes : Codes) (octet : UInt8)
  | distance (codes : Codes) (length : Nat) (isSwift : Bool)
  /-- So many octets are copied from so far back. -/
  | copy (codes : Codes) (length distance : Nat)
  /-- An octet is taken over as it is; so many follow it. -/
  | stored (left : Nat)
  /-- An octet that was taken is written; so many follow it. -/
  | storedReady (octet : UInt8) (left : Nat)
  | ended
deriving Repr, Inhabited

/-- The state of the inflater. -/
structure Inflater where
  /-- All that has been written, last octet first. -/
  history : Bytes := []
  bits : Reservoir := {}
  isLastBlock : Bool := false
  phase : Phase := .number 3 .blockStart
deriving Repr, Inhabited

/-- The codes of a block that brings none of its own. -/
def Codes.fixed : Codes :=
  { literals := (Code.ofLengths? false
      (List.replicate 144 8 ++ List.replicate 112 9 ++ List.replicate 24 7 ++
        List.replicate 8 8)).getD default
    distances := (Code.ofLengths? false (List.replicate 32 5)).getD default }

/-- For the symbols from 257 on: the number of extra bits, and the least length. -/
def lengthTable : Array (Nat × Nat) := #[
  (0, 3), (0, 4), (0, 5), (0, 6), (0, 7), (0, 8), (0, 9), (0, 10), (1, 11), (1, 13), (1, 15),
  (1, 17), (2, 19), (2, 23), (2, 27), (2, 31), (3, 35), (3, 43), (3, 51), (3, 59), (4, 67),
  (4, 83), (4, 99), (4, 115), (5, 131), (5, 163), (5, 195), (5, 227), (0, 258)]

/-- For each symbol of a distance: the number of extra bits, and the least distance. -/
def distanceTable : Array (Nat × Nat) := #[
  (0, 1), (0, 2), (0, 3), (0, 4), (1, 5), (1, 7), (2, 9), (2, 13), (3, 17), (3, 25), (4, 33),
  (4, 49), (5, 65), (5, 97), (6, 129), (6, 193), (7, 257), (7, 385), (8, 513), (8, 769),
  (9, 1025), (9, 1537), (10, 2049), (10, 3073), (11, 4097), (11, 6145), (12, 8193),
  (12, 12289), (13, 16385), (13, 24577)]

/-- The order in which the code for lengths is written. -/
def metaOrder : List Nat :=
  [16, 17, 18, 0, 8, 7, 9, 6, 10, 5, 11, 4, 12, 3, 13, 2, 14, 1, 15]

/-- Writes octets again that were written `distance` octets ago, one after the other, so that
octets of the copy can be copied in turn.  Ahead of the start there are zeros. -/
def copyBack (distance : Nat) : Nat → Bytes → Bytes
  | 0, history => history
  | n + 1, history => copyBack distance n (history.getD (distance - 1) 0 :: history)

/-- Writes octets again, all at once, that were all there before. -/
def copyBlock (distance length : Nat) (history : Bytes) : Bytes :=
  let block := (history.drop (distance - length)).take length
  block ++ List.replicate (length - block.length) 0 ++ history

/-- Zeros behind the end of a list are what `getD` finds there. -/
theorem take_zeros_succ (n : Nat) (xs : Bytes) :
    xs.take n ++ List.replicate (n - (xs.take n).length) 0 ++ [xs.getD n 0] =
      xs.take (n + 1) ++ List.replicate (n + 1 - (xs.take (n + 1)).length) 0 := by
  induction xs generalizing n with
  | nil => simp [List.replicate_succ']
  | cons x xs ih =>
      cases n with
      | zero => simp
      | succ n => simpa using ih n

/-- A copy that does not reach into itself can be made at once. -/
theorem copyBack_eq_copyBlock (distance : Nat) :
    ∀ (length : Nat) (history : Bytes), length ≤ distance →
      copyBack distance length history = copyBlock distance length history
  | 0, history, _ => by simp [copyBack, copyBlock]
  | n + 1, history, h => by
      have hdrop : (history.getD (distance - 1) 0 :: history).drop (distance - n) =
          history.drop (distance - (n + 1)) := by
        rw [show distance - n = distance - (n + 1) + 1 by omega, List.drop_succ_cons]
      have hget : (history.drop (distance - (n + 1))).getD n 0 =
          history.getD (distance - 1) 0 := by
        simp only [List.getD_eq_getElem?_getD, List.getElem?_drop]
        rw [show distance - (n + 1) + n = distance - 1 by omega]
      have hzeros := take_zeros_succ n (history.drop (distance - (n + 1)))
      rw [hget] at hzeros
      rw [copyBack, copyBack_eq_copyBlock distance n _ (by omega)]
      simp only [copyBlock, hdrop]
      rw [← hzeros]
      simp

namespace Inflater

/-- Goes on with a number. -/
def ask (s : Inflater) (size : Nat) (use : NumberUse) : Inflater :=
  { s with phase := .number size use }

/-- A block is over. -/
def nextBlock (s : Inflater) : Inflater :=
  if s.isLastBlock then { s with phase := .ended } else s.ask 3 .blockStart

/-- Goes on with stored octets. -/
def askStored (s : Inflater) : Nat → Inflater
  | 0 => s.nextBlock
  | n + 1 => { s with phase := .stored n }

/-- Goes on with the lengths of code words, or with the block once all are known. -/
def seekLength (s : Inflater) (l : Lengths) : Option Inflater :=
  let total := l.literals + l.distances
  if l.known.length < total then some { s with phase := .length l }
  else if l.known.length = total then do
    let lengths := l.known.reverse
    let literals ← Code.ofLengths? true (lengths.take l.literals)
    let distances ← Code.ofLengths? true (lengths.drop l.literals)
    some { s with phase := .literal ⟨literals, distances⟩ }
  else none

/-- Goes on with the code for lengths, or with the lengths once it is known. -/
def askMeta (s : Inflater) (literals distances : Nat) (left : Nat) (known : List Nat) :
    Option Inflater :=
  match left with
  | n + 1 => some (s.ask 3 (.metaLength literals distances n known))
  | 0 => do
    let written := metaOrder.zip known.reverse
    let lengths := (List.range 19).map fun symbol => (written.lookup symbol).getD 0
    let code ← Code.ofLengths? false lengths
    s.seekLength { code, literals, distances }

/-- The start of a block.  The lengths of a stored block start with a whole octet. -/
def startBlock (s : Inflater) (n : Nat) : Option Inflater :=
  let s := { s with isLastBlock := n % 2 = 1 }
  match n / 2 with
  | 0 => some ({ s with bits := s.bits.drop (s.bits.count % 8) }.ask 32 .storedLength)
  | 1 => some { s with phase := .literal .fixed }
  | 2 => some (s.ask 14 .tableSizes)
  | _ => none

/-- Puts a number to its use. -/
def takeNumber (s : Inflater) (n : Nat) : NumberUse → Option Inflater
  | .blockStart => s.startBlock n
  | .storedLength =>
      let length := n % 0x10000
      if length + n / 0x10000 = 0xffff then some (s.askStored length) else none
  | .tableSizes =>
      let literals := n % 32 + 257
      let distances := n / 32 % 32 + 1
      if literals ≤ 286 && distances ≤ 30 then
        s.askMeta literals distances (n / 1024 + 4) []
      else none
  | .metaLength literals distances left known => s.askMeta literals distances left (n :: known)
  | .repetition l length least =>
      s.seekLength { l with known := List.replicate (least + n) length ++ l.known }
  | .copyLength codes base isSwift =>
      some { s with phase := .distance codes (base + n) isSwift }
  | .copyDistance codes length base _ => some { s with phase := .copy codes length (base + n) }

/-- Goes on with extra bits, of which there may be none. -/
def askExtra (s : Inflater) (size : Nat) (use : NumberUse) : Option Inflater :=
  if size = 0 then s.takeNumber 0 use else some (s.ask size use)

/-- Puts a symbol of the code for lengths to its use. -/
def takeLength (s : Inflater) (l : Lengths) (symbol : Nat) : Option Inflater :=
  match symbol, l.known with
  | 16, [] => none
  | 16, last :: _ => some (s.ask 2 (.repetition l last 3))
  | 17, _ => some (s.ask 3 (.repetition l 0 3))
  | 18, _ => some (s.ask 7 (.repetition l 0 11))
  | length, known => s.seekLength { l with known := length :: known }

/-- Puts a symbol of a block to its use: an octet, the end of the block, or a copy. -/
def takeLiteral (s : Inflater) (codes : Codes) (isSwift : Bool) (symbol : Nat) :
    Option Inflater :=
  if symbol < 256 then some { s with phase := .literalReady codes (.ofNat symbol) }
  else if symbol = 256 then some s.nextBlock
  else do
    let (size, base) ← lengthTable[symbol - 257]?
    s.askExtra size (.copyLength codes base isSwift)

/-- Puts the symbol of a distance to its use. -/
def takeDistance (s : Inflater) (codes : Codes) (length : Nat) (isSwift : Bool) (symbol : Nat) :
    Option Inflater := do
  let (size, base) ← distanceTable[symbol]?
  s.askExtra size (.copyDistance codes length base isSwift)

/-- Writes octets of a copy: at once, unless the copy reaches into itself. -/
def copy (s : Inflater) (length distance : Nat) : Inflater :=
  { s with
    history :=
      if length ≤ distance then copyBlock distance length s.history
      else copyBack distance length s.history }

/-- A copy is one octet after the other. -/
theorem history_copy (s : Inflater) (length distance : Nat) :
    (s.copy length distance).history = copyBack distance length s.history := by
  unfold copy
  split
  · exact (copyBack_eq_copyBlock distance length s.history ‹_›).symm
  · rfl

/-- Whether the last block is over. -/
def isEnded (s : Inflater) : Bool :=
  match s.phase with
  | .ended => true
  | _ => false

end Inflater

/-- A run of the inflater: the input that is left, and the room that is left for output. -/
structure Inflation where
  inflater : Inflater
  input : Bytes
  room : Nat
deriving Repr, Inhabited

/-- What a step of a run comes to. -/
inductive Step where
  | further (inflation : Inflation)
  /-- There is too little input. -/
  | hungry (inflation : Inflation)
  /-- There is no room. -/
  | full (inflation : Inflation)
  /-- The data is over. -/
  | ended (inflation : Inflation)
  /-- The data is not well formed. -/
  | corrupt
deriving Repr, Inhabited

namespace Inflation

/-- The bits that are loaded, and the octets behind them. -/
def source (r : Inflation) : BitSource := ⟨r.inflater.bits, r.input⟩

/-- Goes on with other bits and octets. -/
def withSource (r : Inflation) (s : BitSource) : Inflation :=
  { r with inflater := { r.inflater with bits := s.bits }, input := s.input }

/-- Loads four octets, ahead of need, unless 30 bits are there. -/
def loadAhead (r : Inflation) : Inflation :=
  if r.inflater.bits.count < 30 then r.withSource (r.source.load 4) else r

/-- Whether so much input and room is left that neither can run out while the next symbols, and
a copy if they ask for one, are dealt with. -/
def isRich (r : Inflation) : Bool := 259 ≤ r.room && hasOctets 14 r.input

/-- Goes on after something has been put to its use. -/
def goOn (r : Inflation) : Option Inflater → Step
  | none => .corrupt
  | some inflater => .further { r with inflater }

/-- Takes bits out. -/
def drop (r : Inflation) (n : Nat) : Inflation := r.withSource (r.source.drop n)

/-- Writes one octet, for which there is room. -/
def write (r : Inflation) (b : UInt8) (next : Inflater → Inflater) : Inflation :=
  { r with
    inflater := next { r.inflater with history := b :: r.inflater.history }
    room := r.room - 1 }

/-- Reads a number. -/
def number (r : Inflation) (size : Nat) (use : NumberUse) : Step :=
  let r := r.withSource (r.source.loadBits size)
  if r.inflater.bits.count < size then .hungry r
  else
    let n := r.inflater.bits.low size
    let r := r.drop size
    r.goOn (r.inflater.takeNumber n use)

/-- Reads a symbol, and puts it to its use.  Two octets are loaded at once if they are there;
of the last octets no more is loaded than the symbol takes. -/
def symbol (r : Inflation) (code : Code) (use : Inflater → Nat → Option Inflater) : Step :=
  let r :=
    if r.inflater.bits.count < Code.maxLength && hasOctets 2 r.input then
      r.withSource (r.source.load 2)
    else r
  let r :=
    match code.find r.inflater.bits with
    | .short => r.withSource (r.source.load 1)
    | _ => r
  match code.find r.inflater.bits with
  | .short => .hungry r
  | .nothing => .corrupt
  | .symbol symbol length =>
      let r := r.drop length
      r.goOn (use r.inflater symbol)

/-- Reads a symbol of a block from bits that are loaded. -/
def loaded (r : Inflation) (codes : Codes) (isSwift : Bool) : Step :=
  match codes.literals.find r.inflater.bits with
  | .short => .hungry r
  | .nothing => .corrupt
  | .symbol symbol length =>
      let r := r.drop length
      match r.goOn (r.inflater.takeLiteral codes isSwift symbol) with
      | .further r => .further (if isSwift && 256 < symbol then r.loadAhead else r)
      | stop => stop

/-- Reads a symbol of a block, and a second one if the first is an octet.  No more bits are
loaded between the two. -/
def pair (r : Inflation) (codes : Codes) : Step :=
  let isSwift := r.isRich
  match r.loadAhead.loaded codes isSwift with
  | .further r =>
      match r.inflater.phase with
      | .literalReady codes octet =>
          (r.write octet fun s => { s with phase := .literal codes }).loaded codes isSwift
      | _ => .further r
  | stop => stop

/-- Reads a symbol of a block, or two where there is some input and room. -/
def literal (r : Inflation) (codes : Codes) : Step :=
  if 2 ≤ r.room && hasOctets 4 r.input then r.pair codes
  else r.symbol codes.literals fun s symbol => s.takeLiteral codes false symbol

/-- Takes a stored octet over.  One that is loaded is taken at once; any other waits in the
input until there is room. -/
def stored (r : Inflation) (left : Nat) : Step :=
  if r.inflater.bits.count ≠ 0 then
    let octet := UInt8.ofNat (r.inflater.bits.low 8)
    let r := r.drop 8
    .further { r with inflater := { r.inflater with phase := .storedReady octet left } }
  else if r.room = 0 then .full r
  else
    match r.input with
    | [] => .hungry r
    | b :: input => .further ({ r with input }.write b (·.askStored left))

/-- Copies as much as there is room for. -/
def copy (r : Inflation) (codes : Codes) (length distance : Nat) : Step :=
  if r.room = 0 then .full r
  else
    let n := min length r.room
    let s := r.inflater.copy n distance
    let phase := if length ≤ r.room then .literal codes else .copy codes (length - n) distance
    .further { r with inflater := { s with phase }, room := r.room - n }

/-- One step. -/
def step (r : Inflation) : Step :=
  match r.inflater.phase with
  | .number size use =>
      match use with
      | .copyDistance _ _ _ true => r.loadAhead.number size use
      | _ => r.number size use
  | .length l => r.symbol l.code fun s symbol => s.takeLength l symbol
  | .literal codes => r.literal codes
  | .literalReady codes octet =>
      if r.room = 0 then .full r
      else .further (r.write octet fun s => { s with phase := .literal codes })
  | .distance codes length isSwift =>
      r.symbol codes.distances fun s symbol => s.takeDistance codes length isSwift symbol
  | .copy codes length distance => r.copy codes length distance
  | .stored left => r.stored left
  | .storedReady octet left =>
      if r.room = 0 then .full r else .further (r.write octet (·.askStored left))
  | .ended => .ended r

/-- Takes so many steps, or as many as can be taken.  At the end of the data, and for want of
room, the octets that were not touched are given back.  There is no answer if the data is
not well formed. -/
def steps : Nat → Inflation → Option Inflation
  | 0, r => some r
  | n + 1, r =>
      match r.step with
      | .further r => steps n r
      | .hungry r => some r
      | .full r | .ended r => some (r.withSource r.source.giveBack)
      | .corrupt => none

/-- Goes on as far as possible.  Every step takes a bit or writes an octet. -/
def finish (r : Inflation) : Option Inflation :=
  r.steps (r.source.size + r.room + 1)

end Inflation

end FrameBridge.Deflate
