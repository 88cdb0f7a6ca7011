import FrameBridge.Decoding.Builtin
import FrameBridge.Rehearsal.Inflate.Checksum
import FrameBridge.Rehearsal.Inflate.Inflater

/-!
# Framed deflate data

Deflate data stands alone or is wrapped: two octets ahead of it say how it was
made, and four octets behind it check what comes out.
-/

namespace FrameBridge.Deflate

/-- Where in a wrapped body the next octet stands. -/
inductive Framing where
  | method
  | options (method : UInt8)
  | body
  /-- So many octets of the check are missing; the value so far. -/
  | check (missing value : Nat)
  | ended
deriving DecidableEq, Repr, Inhabited

/-- Deflate data with or without its wrapping. -/
structure Member where
  isWrapped : Bool
  framing : Framing
  inflater : Inflater := {}
deriving Repr, Inhabited

/-- What a run over framed data comes to: the input that is left, and the number of octets that
came out. -/
structure Passage where
  member : Member
  rest : Bytes
  written : Nat
deriving Repr, Inhabited

namespace Member

/-- Data without a wrapping. -/
def raw : Member := { isWrapped := false, framing := .body }

/-- Data in a wrapping. -/
def wrapped : Member := { isWrapped := true, framing := .method }

/-- Whether nothing may follow. -/
def isEnded (m : Member) : Bool := m.framing = .ended

/-- All that has come out so far, last octet first. -/
def history (m : Member) : Bytes := m.inflater.history

/-- All that has come out so far. -/
def output (m : Member) : Bytes := m.inflater.history.reverse

/-- Takes the octets of the check in. -/
def check (inflater : Inflater) : Nat → Nat → Bytes → Option (Member × Bytes)
  | missing, value, [] => some (⟨true, .check missing value, inflater⟩, [])
  | missing, value, b :: bs =>
      let value := value * 256 + b.toNat
      if 1 < missing then check inflater (missing - 1) value bs
      else if value = Checksum.adler inflater.history.reverse then
        some (⟨true, .ended, inflater⟩, bs)
      else none

/-- Takes deflate data in, and what is behind it. -/
def body (isWrapped : Bool) (inflater : Inflater) (room : Nat) (input : Bytes) :
    Option Passage := do
  let run ← Inflation.finish { inflater, input, room }
  let written := room - run.room
  if !run.inflater.isEnded then
    some { member := ⟨isWrapped, .body, run.inflater⟩, rest := run.input, written }
  else if isWrapped then
    let (member, rest) ← check run.inflater 4 0 run.input
    some { member, rest, written }
  else
    some { member := ⟨false, .ended, run.inflater⟩, rest := run.input, written }

/-- Takes the second octet of a wrapping in, and what is behind it.  A wrapping may ask neither
for a preset dictionary nor for a window of more than 32 KiB. -/
def options (inflater : Inflater) (method : UInt8) (room : Nat) : Bytes → Option Passage
  | [] => some { member := ⟨true, .options method, inflater⟩, rest := [], written := 0 }
  | b :: bs =>
      if isWrapper method b && b &&& 0x20 = 0 && method >>> 4 ≤ 7 then body true inflater room bs
      else none

/-- Takes input in as far as there is room for what comes out.  There is no answer if the data
is not well formed. -/
def pass (m : Member) (room : Nat) (input : Bytes) : Option Passage :=
  match m.framing with
  | .method =>
      match input with
      | [] => some { member := m, rest := [], written := 0 }
      | b :: bs => options m.inflater b room bs
  | .options method => options m.inflater method room input
  | .body => body m.isWrapped m.inflater room input
  | .check missing value => do
      let (member, rest) ← check m.inflater missing value input
      some { member, rest, written := 0 }
  | .ended => some { member := m, rest := input, written := 0 }

end Member

end FrameBridge.Deflate
