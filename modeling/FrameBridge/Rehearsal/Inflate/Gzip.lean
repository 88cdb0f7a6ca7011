import FrameBridge.Rehearsal.Inflate.Stream

/-!
# Gzip

A gzip body has a header of its own, deflate data, and eight octets that check
what comes out.  The check is made only at the end of the body.
-/

namespace FrameBridge.Gzip

/-- The optional parts of a header, in their order. -/
inductive Part where
  /-- A field of the given length, the length in two octets ahead of it. -/
  | extra
  /-- A text up to a zero. -/
  | text
  /-- A checksum of the header. -/
  | check
deriving DecidableEq, Repr, Inhabited

/-- What is read of a header. -/
inductive Reading where
  /-- The ten octets that are always there; those so far, last one first. -/
  | fixed (seen : Bytes)
  | extraLength (seen : Bytes)
  | extra (left : Nat)
  /-- A text of so many octets so far. -/
  | text (length : Nat)
  | check (seen : Bytes)
deriving DecidableEq, Repr, Inhabited

/-- The state of a header: what is read, the parts that follow, and the checksum so far. -/
structure Header where
  reading : Reading := .fixed []
  parts : List Part := []
  crc : UInt32 := Checksum.crcStart
deriving DecidableEq, Repr, Inhabited

/-- The longest text of a header. -/
def maxText : Nat := 65535

/-- The parts that a flag octet announces. -/
def announced (flags : UInt8) : List Part :=
  (if flags &&& 0x04 = 0 then [] else [.extra]) ++
    (if flags &&& 0x08 = 0 then [] else [.text]) ++
    (if flags &&& 0x10 = 0 then [] else [.text]) ++
    (if flags &&& 0x02 = 0 then [] else [.check])

/-- Whether ten octets, last one first, start a header: the mark of the format, the deflate
method, and no flag that has no meaning. -/
def isStart (seen : Bytes) : Bool :=
  match seen.reverse with
  | 0x1f :: 0x8b :: 8 :: flags :: _ => flags &&& 0xe0 = 0
  | _ => false

namespace Header

/-- Goes on with the next part; there is none after the last. -/
def next (h : Header) : Option Header :=
  match h.parts with
  | [] => none
  | .extra :: parts => some { h with reading := .extraLength [], parts }
  | .text :: parts => some { h with reading := .text 0, parts }
  | .check :: parts => some { h with reading := .check [], parts }

/-- Takes one octet in.  The answer is empty once the header is over. -/
def octet (h : Header) (b : UInt8) : Except DecodeError (Option Header) :=
  let crc := Checksum.crcOctet h.crc b
  match h.reading with
  | .fixed seen =>
      let seen := b :: seen
      if seen.length < 10 then .ok (some { h with reading := .fixed seen, crc })
      else if isStart seen then
        .ok ({ h with parts := announced (seen.reverse.getD 3 0), crc } : Header).next
      else .error .gzipHeader
  | .extraLength seen =>
      let seen := b :: seen
      if seen.length < 2 then .ok (some { h with reading := .extraLength seen, crc })
      else
        match Checksum.littleEndian seen.reverse with
        | 0 => .ok { h with crc }.next
        | n + 1 => .ok (some { h with reading := .extra (n + 1), crc })
  | .extra left =>
      if 1 < left then .ok (some { h with reading := .extra (left - 1), crc })
      else .ok { h with crc }.next
  | .text length =>
      if b = 0 then .ok { h with crc }.next
      else if length = maxText then .error .gzipFieldTooLong
      else .ok (some { h with reading := .text (length + 1), crc })
  | .check seen =>
      -- The checksum does not cover itself, so `crc` stays as it is.
      let seen := b :: seen
      if seen.length < 2 then .ok (some { h with reading := .check seen })
      else if Checksum.littleEndian seen.reverse = (Checksum.crcEnd h.crc).toNat % 0x10000 then
        .ok h.next
      else .error .gzipChecksum

/-- Takes octets in until the header is over.  The answer is the header, if it goes on, and
the octets behind it. -/
def feed (h : Header) : Bytes → Except DecodeError (Option Header × Bytes)
  | [] => .ok (some h, [])
  | b :: bs => do
      match ← h.octet b with
      | none => .ok (none, bs)
      | some h => h.feed bs

end Header

/-- A gzip body that arrives in pieces. -/
structure Body where
  /-- The header, until it is over. -/
  header : Option Header := some {}
  data : Deflate.Stream := { member := .raw }
  /-- The octets behind the data. -/
  trailer : Bytes := []
deriving Repr, Inhabited

namespace Body

/-- The length of the check behind the data. -/
def trailerLength : Nat := 8

/-- Takes a piece in, but for what is behind the trailer: the number of octets, and what is given
out. -/
def write (g : Body) (piece : Bytes) : Except DecodeError (Nat × Bytes × Body) := do
  let (header, rest) ←
    match g.header with
    | none => .ok (none, piece)
    | some h => h.feed piece
  let (behind, out, data) ← g.data.feed rest
  let check := behind.take (trailerLength - g.trailer.length)
  .ok (piece.length - (behind.length - check.length), out,
    { header, data, trailer := g.trailer ++ check })

/-- The body has ended: the check is made, and the rest is given out. -/
def finish (g : Body) : Except DecodeError Bytes := do
  let (out, data) ← g.data.finish
  let output := data.member.output
  if g.trailer.length = trailerLength &&
      Checksum.littleEndian (g.trailer.take 4) = (Checksum.crc output).toNat &&
      Checksum.littleEndian (g.trailer.drop 4) = output.length % 0x100000000 then
    .ok out
  else .error .gzipChecksum

end Body

end FrameBridge.Gzip
