import FrameBridge.Decoding.Decoder

/-!
# Toy decoders

Codings for rehearsals, each small enough to be followed by eye.
-/

namespace FrameBridge

/-- A decoder of a toy coding. -/
inductive ToyDecoder where
  /-- Capital letters. -/
  | upper
  /-- Nothing can be decoded. -/
  | failing
  /-- Nothing is given out until the end, and then everything backwards. -/
  | hold (held : Bytes)
  /-- Nothing is given out, and the end is a failure. -/
  | badEnd (held : Nat)
  /-- A mark is added at the end. -/
  | tail
  /-- An octet that is zero is a failure. -/
  | noZero
  /-- Nothing is changed. -/
  | copy
deriving DecidableEq, Repr, Inhabited

namespace ToyDecoder

/-- The codings of a first set. -/
def ofTestCoding : String → Option ToyDecoder
  | "x-upper" => some .upper
  | "x-fail" => some .failing
  | _ => none

/-- The codings of a second set. -/
def ofCustomCoding : String → Option ToyDecoder
  | "x-hold" => some (.hold [])
  | "x-badend" => some (.badEnd 0)
  | "x-tail" => some .tail
  | "x-nul" => some .noZero
  | "x-copy" | "" => some .copy
  | _ => none

instance : Decoder ToyDecoder where
  feed
    | .upper, xs => .ok (xs.map Bytes.upperOctet, .upper)
    | .failing, _ => .error (.custom "corrupt block")
    | .hold held, xs => .ok ([], .hold (held ++ xs))
    | .badEnd held, xs => .ok ([], .badEnd (held + xs.length))
    | .noZero, xs => if xs.contains 0 then .error (.custom "nul byte") else .ok (xs, .noZero)
    | .tail, xs => .ok (xs, .tail)
    | .copy, xs => .ok (xs, .copy)
  finish
    | .hold held => .ok held.reverse
    | .badEnd held => .error (.custom (Dump.number held ++ " bytes left"))
    | .tail => .ok (Bytes.ofText "<end>")
    | .upper | .failing | .noZero | .copy => .ok []

end ToyDecoder

end FrameBridge
