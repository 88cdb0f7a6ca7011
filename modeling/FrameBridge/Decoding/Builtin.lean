import FrameBridge.Decoding.Decoder

/-!
# The built-in decoders

Decoders for the codings `gzip` and `deflate` and their older names.  A library does
the decompression, and is a parameter here: it has decoders for data in three formats,
and each of them writes what it decodes to a buffer.  What the built-in decoders add is
how a piece gets there and back, and which format a `deflate` body is in.  Such a body
may lack its wrapping; its first two octets decide.
-/

namespace FrameBridge

/-- What compressed data comes in. -/
inductive DataFormat where
  | gzip
  | zlib
  /-- Compressed data alone. -/
  | raw
deriving DecidableEq, Repr, Inhabited

/-- A library of decoders with states of type `σ`. -/
class WriteDecoder (σ : Type) where
  /-- A decoder that has taken nothing in. -/
  start : DataFormat → σ
  /-- Takes in as much of a piece as it will: the number of octets, what is written out for them,
  and the decoder that is left. -/
  write : σ → Bytes → Except DecodeError (Nat × Bytes × σ)
  /-- The data is over: what is still to be written out. -/
  tryFinish : σ → Except DecodeError Bytes

/-- A decoder of the library and the buffer that it writes to. -/
structure Buffered (σ : Type) where
  decoder : σ
  buffer : Bytes := []
deriving Repr, Inhabited

namespace Buffered

variable {σ : Type} [WriteDecoder σ]

/-- A decoder that has taken nothing in, and an empty buffer. -/
def start (format : DataFormat) : Buffered σ := { decoder := WriteDecoder.start format }

/-- Has the whole of a piece taken in, in as many turns as the decoder likes.  A turn that takes
nothing of what is left ends this. -/
def writeAll (b : Buffered σ) (piece : Bytes) : Except DecodeError (Buffered σ) :=
  if _ : piece = [] then .ok b
  else
    match WriteDecoder.write b.decoder piece with
    | .error e => .error e
    | .ok (taken, out, decoder) =>
        if _ : taken = 0 then .error .leftOver
        else writeAll { decoder, buffer := b.buffer ++ out } (piece.drop taken)
termination_by piece.length
decreasing_by
  have := List.length_pos_iff.mpr ‹piece ≠ []›
  rw [List.length_drop]
  omega

/-- Takes the buffer, and leaves an empty one. -/
def take (b : Buffered σ) : Bytes × Buffered σ := (b.buffer, { b with buffer := [] })

instance : Decoder (Buffered σ) where
  feed b piece := (b.writeAll piece).map take
  finish b := (WriteDecoder.tryFinish b.decoder).map (b.buffer ++ ·)

end Buffered

/-- Whether two octets start a body in its wrapping: the method is deflate, and together they are
a multiple of 31. -/
def isWrapper (method options : UInt8) : Bool :=
  method &&& 0x0f = 8 && (method.toNat * 256 + options.toNat) % 31 = 0

/-- A decoder of a built-in coding. -/
inductive BuiltinDecoder (σ : Type) where
  /-- A deflate body of which fewer than two octets are there. -/
  | undecided (head : Bytes)
  /-- A body whose format is known. -/
  | decided (body : Buffered σ)
deriving Repr, Inhabited

namespace BuiltinDecoder

variable {σ : Type} [WriteDecoder σ]

/-- The decoder for a coding. -/
def ofCoding : String → Option (BuiltinDecoder σ)
  | "gzip" | "x-gzip" => some (.decided (.start .gzip))
  | "deflate" | "x-deflate" => some (.undecided [])
  | _ => none

/-- The format that the first two octets of a deflate body tell. -/
def format (method options : UInt8) : DataFormat :=
  if isWrapper method options then .zlib else .raw

/-- Takes a piece in.  The octets that were waited for go to the decoder that they choose, ahead
of what follows them. -/
def feed : BuiltinDecoder σ → Bytes → Except DecodeError (Bytes × BuiltinDecoder σ)
  | .undecided head, piece =>
      match head ++ piece with
      | method :: options :: rest =>
          (Decoder.feed (Buffered.start (format method options)) (method :: options :: rest)).map
            fun (out, body) => (out, .decided body)
      | head => .ok ([], .undecided head)
  | .decided body, piece =>
      (Decoder.feed body piece).map fun (out, body) => (out, .decided body)

/-- The body has ended.  A body of one octet is an error. -/
def finish : BuiltinDecoder σ → Except DecodeError Bytes
  | .undecided [] => .ok []
  | .undecided (_ :: _) => .error .tooShort
  | .decided body => Decoder.finish body

instance : Decoder (BuiltinDecoder σ) := ⟨feed, finish⟩

end BuiltinDecoder

end FrameBridge
