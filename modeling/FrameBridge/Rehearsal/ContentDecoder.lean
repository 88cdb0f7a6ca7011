import FrameBridge.Decoding.Builtin
import FrameBridge.Rehearsal.Inflate.Gzip

/-!
# A library of decoders for rehearsals

The built-in decoders rest on a library that decompresses, and what is proved of them
holds for any library.  A rehearsal runs them on real bodies and needs one that does
decompress: an inflater that stands in for the library.
-/

namespace FrameBridge

/-- A decoder of the stand-in. -/
inductive Inflating where
  | gzip (body : Gzip.Body)
  | deflate (data : Deflate.Stream)
deriving Repr, Inhabited

namespace Inflating

/-- A decoder that has taken nothing in. -/
def start : DataFormat → Inflating
  | .gzip => .gzip {}
  | .zlib => .deflate { member := .wrapped }
  | .raw => .deflate { member := .raw }

/-- Takes a piece in, but for what is behind the end of the data. -/
def write : Inflating → Bytes → Except DecodeError (Nat × Bytes × Inflating)
  | .gzip body, piece => do
      let (taken, out, body) ← body.write piece
      .ok (taken, out, .gzip body)
  | .deflate data, piece => do
      let (rest, out, data) ← data.feed piece
      .ok (piece.length - rest.length, out, .deflate data)

/-- The data is over. -/
def tryFinish : Inflating → Except DecodeError Bytes
  | .gzip body => body.finish
  | .deflate data => data.finish.map (·.1)

instance : WriteDecoder Inflating := ⟨start, write, tryFinish⟩

end Inflating

/-- A built-in decoder of a rehearsal. -/
abbrev ContentDecoder := BuiltinDecoder Inflating

/-- The decoder of a rehearsal for a coding. -/
def ContentDecoder.ofCoding (coding : String) : Option ContentDecoder :=
  BuiltinDecoder.ofCoding coding

end FrameBridge
