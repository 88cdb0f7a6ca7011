import FrameBridge.Rehearsal.Inflate.Member

/-!
# Decoding in pieces

Framed deflate data that arrives in pieces.  What is decoded passes two places
before it is given out: a round window of 32768 octets, which is written from
where it was left up to its end, and a tray of the same size.  A turn empties
the tray, takes input in, and moves what the window has brought to the tray.
So octets come out one turn late, and what the last turn of a piece has brought
waits for the next piece, or for the end of the data.

Input that is used up stops the turns, even where bits of its last octet could
not be read for want of room.  If these bits are not well formed, this shows with
the next piece, or only when the data is over.
-/

namespace FrameBridge.Deflate

/-- The size of the window, and of the tray. -/
def window : Nat := 32768

/-- Data that arrives in pieces. -/
structure Stream where
  member : Member
  /-- Where in the window the next octet stands that moves on. -/
  position : Nat := 0
  /-- The number of octets that wait in the window. -/
  ready : Nat := 0
  /-- The number of octets in the tray. -/
  held : Nat := 0
deriving Repr, Inhabited

namespace Stream

/-- The number of octets that have been decoded and not been given out. -/
def waiting (s : Stream) : Nat := s.held + s.ready

/-- Empties the tray. -/
def give (s : Stream) : Bytes × Stream :=
  (((s.member.history.drop s.ready).take s.held).reverse, { s with held := 0 })

/-- Moves octets from the window to the tray as far as it has room. -/
def moveOn (s : Stream) : Stream :=
  let n := min s.ready (window - s.held)
  { s with position := (s.position + n) % window, ready := s.ready - n, held := s.held + n }

/-- Whether the data is over and nothing waits in the window. -/
def isEnded (s : Stream) : Bool := s.member.isEnded && s.ready = 0

/-- Takes input in as far as there is room up to the end of the window.  The answer holds the
input that is left. -/
def fill (s : Stream) (input : Bytes) : Option (Stream × Bytes) := do
  let p ← s.member.pass (window - s.position) input
  some ({ s with member := p.member, ready := s.ready + p.written }.moveOn, p.rest)

/-- What a turn does after the tray is emptied.  Octets in the window move on before any input
is taken in.  A window that is full goes round once; then the tray is full. -/
def turn (s : Stream) (input : Bytes) : Option (Stream × Bytes) :=
  if s.ready ≠ 0 then some (s.moveOn, input)
  else do
    let (s, rest) ← s.fill input
    if s.member.isEnded || rest.isEmpty || s.ready ≠ 0 || s.held = window then some (s, rest)
    else s.fill rest

/-- Takes a piece of input in with at most so many turns.  The answer holds the input behind
the end of the data, and what is given out. -/
def turns : Nat → Stream → Bytes → Except DecodeError (Bytes × Bytes × Stream)
  | 0, s, rest => .ok (rest, [], s)
  | n + 1, s, input =>
      let (out, s) := s.give
      match s.turn input with
      | none => .error .corruptDeflate
      | some (s, rest) =>
          if rest.isEmpty || s.isEnded then .ok (rest, out, s)
          else (turns n s rest).map fun (rest, more, s) => (rest, out ++ more, s)

/-- Takes a piece of input in.  An empty piece does nothing at all.  A turn that takes no input
in only moves octets on, and the turn after it takes some. -/
def feed (s : Stream) (piece : Bytes) : Except DecodeError (Bytes × Bytes × Stream) :=
  if piece.isEmpty then .ok ([], [], s) else s.turns (2 * piece.length + 2) piece

/-- The data is over: gives out what has not been given out, and what the bits that are left
over bring.  Data that is cut short is not an error. -/
def finish (s : Stream) : Except DecodeError (Bytes × Stream) :=
  match s.member.pass window [] with
  | none => .error .corruptEnd
  | some p =>
      .ok ((p.member.history.take (s.waiting + p.written)).reverse,
        { s with member := p.member, ready := 0, held := 0 })

end Stream

end FrameBridge.Deflate
