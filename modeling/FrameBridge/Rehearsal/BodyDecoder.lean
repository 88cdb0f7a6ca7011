import FrameBridge.Rehearsal.ContentDecoder
import FrameBridge.Rehearsal.ToyDecoder

/-!
# The decoders of a rehearsal

A rehearsal picks one of several sets of codings, built in or toys.
-/

namespace FrameBridge

/-- A decoder of any coding. -/
inductive BodyDecoder where
  | content (decoder : ContentDecoder)
  | toy (decoder : ToyDecoder)
deriving Repr, Inhabited

namespace BodyDecoder

instance : Decoder BodyDecoder where
  feed
    | .content d, piece => (Decoder.feed d piece).map fun (out, d) => (out, .content d)
    | .toy d, piece => (Decoder.feed d piece).map fun (out, d) => (out, .toy d)
  finish
    | .content d => Decoder.finish d
    | .toy d => Decoder.finish d

/-- The set of codings that goes by a name. -/
def source (name : String) (encoding : String) : Option BodyDecoder :=
  match name with
  | "builtin" | "content" => (ContentDecoder.ofCoding encoding).map .content
  | "custom" => (ToyDecoder.ofCustomCoding encoding).map .toy
  | _ => (ToyDecoder.ofTestCoding encoding).map .toy

end BodyDecoder

end FrameBridge
