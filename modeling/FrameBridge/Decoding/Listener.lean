import FrameBridge.Decoding.Decoder
import FrameBridge.Protocol.Error
import FrameBridge.Protocol.StreamMap
import FrameBridge.Text.Blank
import FrameBridge.Text.Utf8

/-!
# Decoding bodies

A listener stands in front of the connection and decodes the bodies of streams.
The first headers of a stream settle whether it has a coding that is known; if so
the fields that speak of the coded body are taken away, and every piece of the
body is replaced by what the stream's decoder makes of it.  All else passes
unchanged.

The coding of a stream is remembered until the stream ends, is reset, is closed,
or fails to decode.
-/

namespace FrameBridge

/-- What is known of the body of a stream. -/
inductive Coding (δ : Type) where
  /-- The body is handed on as it is. -/
  | identity
  | decoding (encoding : String) (decoder : δ)
deriving Repr, Inhabited

/-- Makes decoders by the name of a coding. -/
abbrev DecoderSource (δ : Type) := String → Option δ

/-- The codings of the streams that are open. -/
structure Listener (δ : Type) where
  source : DecoderSource δ
  streams : StreamMap (Coding δ) := .empty

/-- What a listener makes of a frame.  `asked` is the coding that its source of decoders
was asked for, and `found` says whether there is one. -/
structure Processed (δ : Type) where
  listener : Listener δ
  frames : List Frame
  error : Option ProtocolError := none
  asked : Option String := none
  found : Bool := false

namespace Listener

variable {δ : Type}

/-- A listener that remembers no stream. -/
def ofSource (source : DecoderSource δ) : Listener δ := { source := source }

/-- The number of streams whose coding is remembered. -/
def tracked (l : Listener δ) : Nat := l.streams.size

/-- The diagnostic text of a listener. -/
def dump (l : Listener δ) : String :=
  Dump.openRecord "DecompressingListener" [("streams", Dump.number l.tracked)]

/-- A stream is closed. -/
def streamClosed (l : Listener δ) (s : StreamId) : Listener δ :=
  { l with streams := l.streams.erase s }

/-- The violation that a body of undecodable octets is. -/
def failure (s : StreamId) (encoding : String) (e : DecodeError) : ProtocolError :=
  .stream s .protocolError (encoding ++ " body could not be decoded: " ++ e.display)

/-- The coding that headers name, in lower case and without blanks around it. -/
def namedCoding (h : Headers) : Option String :=
  ((h.get? contentEncoding).bind Utf8.decode?).map fun text =>
    (Blank.trim text).map Char.toLower

/-- The first headers of a stream. -/
def begin (l : Listener δ) (s : StreamId) (h : Headers) (prio : Option Priority)
    (padding : UInt8) (ends : Bool) : Processed δ :=
  -- Headers that end their stream leave nothing to remember.
  let remember (c : Coding δ) : Listener δ :=
    if ends then l else { l with streams := l.streams.insert s c }
  let plain (asked : Option String) : Processed δ :=
    { listener := remember .identity, frames := [.headers s h prio padding ends], asked }
  match namedCoding h with
  | none => plain none
  | some encoding =>
      if encoding = "identity" then plain none
      else
        match l.source encoding with
        | none => plain (some encoding)
        | some d =>
            let h := (h.remove contentEncoding).remove contentLength
            { listener := remember (.decoding encoding d)
              frames := [.headers s h prio padding ends]
              asked := some encoding
              found := true }

variable [Decoder δ]

/-- The tail of a body, as a frame of its own where there is one. -/
def tailFrame (s : StreamId) (tail : Bytes) : List Frame :=
  if tail.isEmpty then [] else [.data s tail 0 false 0]

/-- Headers that end a stream whose coding is remembered: what its decoder still holds
goes ahead of them. -/
def endWithTrailers (l : Listener δ) (s : StreamId) (trailers : Frame) : Processed δ :=
  let rest := l.streamClosed s
  match l.streams.get? s with
  | some (.decoding encoding d) =>
      match Decoder.finish d with
      | .ok tail => { listener := rest, frames := tailFrame s tail ++ [trailers] }
      | .error e => { listener := rest, frames := [], error := some (failure s encoding e) }
  | _ => { listener := rest, frames := [trailers] }

/-- A piece of a body.  `wrap` makes it a frame again. -/
def body (l : Listener δ) (s : StreamId) (data : Bytes) (ends : Bool) (wrap : Bytes → Frame) :
    Processed δ :=
  match l.streams.get? s with
  | some (.decoding encoding d) =>
      match Decoder.feedLast d data ends with
      | .ok (out, d) =>
          let streams :=
            if ends then l.streams.erase s else l.streams.insert s (.decoding encoding d)
          { listener := { l with streams }, frames := [wrap out] }
      | .error e =>
          { listener := l.streamClosed s, frames := [], error := some (failure s encoding e) }
  | _ => { listener := if ends then l.streamClosed s else l, frames := [wrap data] }

/-- Takes one frame in. -/
def process (l : Listener δ) (f : Frame) : Processed δ :=
  match f with
  | .headers s h prio padding ends =>
      if l.streams.contains s then
        if ends then l.endWithTrailers s f else { listener := l, frames := [f] }
      else l.begin s h prio padding ends
  | .data s d padding ends window => l.body s d ends fun d => .data s d padding ends window
  | .reset s _ => { listener := l.streamClosed s, frames := [f] }
  | _ => { listener := l, frames := [f] }

end Listener

end FrameBridge
