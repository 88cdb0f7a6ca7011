import FrameBridge.Text.Bytes
import FrameBridge.Text.Dump

/-!
# The interface of decoders

A decoder undoes one content coding of one body.  It is fed the body in pieces,
and is told when the body has ended.
-/

namespace FrameBridge

/-- Why a body could not be decoded. -/
inductive DecodeError where
  /-- The decompression library finds that the compressed data, or what frames it, is not well
  formed. -/
  | corruptDeflate
  /-- The same, found when the data was over. -/
  | corruptEnd
  /-- The library does not support how a gzip member starts. -/
  | gzipHeader
  /-- A check of a gzip member fails, or is missing. -/
  | gzipChecksum
  /-- A name or comment of a gzip member is too long for the library. -/
  | gzipFieldTooLong
  /-- The library does not take all octets in. -/
  | leftOver
  /-- The body ended before it was known how it is compressed. -/
  | tooShort
  /-- A decoder of the application gave up. -/
  | custom (message : String)
deriving DecidableEq, Repr, Inhabited

/-- The message of a failure. -/
def DecodeError.display : DecodeError → String
  | .corruptDeflate => "corrupt deflate stream"
  | .corruptEnd => "deflate decompression error"
  | .gzipHeader => "invalid gzip header"
  | .gzipChecksum => "corrupt gzip stream does not have a matching checksum"
  | .gzipFieldTooLong => "gzip header field too long"
  | .leftOver => "failed to write whole buffer"
  | .tooShort => "deflate body ended after one byte"
  | .custom m => m

/-- A decoder with states of type `δ`. -/
class Decoder (δ : Type) where
  /-- Takes the next piece of the body in, and gives out what is decoded. -/
  feed : δ → Bytes → Except DecodeError (Bytes × δ)
  /-- The body has ended: gives out what was held back. -/
  finish : δ → Except DecodeError Bytes

namespace Decoder

variable {δ : Type} [Decoder δ]

/-- Takes a piece in that may be the last one.  The decoder that is left over after the
last piece is of no more use. -/
def feedLast (d : δ) (piece : Bytes) (last : Bool) : Except DecodeError (Bytes × δ) := do
  let (out, d) ← feed d piece
  if last then
    let tail ← finish d
    return (out ++ tail, d)
  return (out, d)

/-- Takes pieces in, in order, up to the first failure.  The answer holds what each piece
brought, and the decoder that is left or the failure. -/
def feedAll (d : δ) : List Bytes → List Bytes × Except DecodeError δ
  | [] => ([], .ok d)
  | piece :: pieces =>
      match feed d piece with
      | .error e => ([], .error e)
      | .ok (out, d) =>
          let (outs, left) := feedAll d pieces
          (out :: outs, left)

/-- Decodes a whole body that arrives in pieces.  The answer holds what each call brought,
the call at the end included, and the failure if there is one. -/
def decodeAll (d : δ) (pieces : List Bytes) : List Bytes × Option DecodeError :=
  match feedAll d pieces with
  | (outs, .error e) => (outs, some e)
  | (outs, .ok d) =>
      match finish d with
      | .error e => (outs, some e)
      | .ok tail => (outs ++ [tail], none)

end Decoder

end FrameBridge
