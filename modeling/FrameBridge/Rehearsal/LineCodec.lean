import FrameBridge.Protocol.StreamSet
import FrameBridge.Text.Blank
import FrameBridge.Text.Utf8
import FrameBridge.Wire.Codec

/-!
# A codec of lines

A codec for rehearsals.  Each frame that it encodes is one line of text, and each
line that it decodes is one event:

* `SETTINGS` and `PING`;
* `HEADERS <stream>`, `CLOSE <stream>` and `GOAWAY <stream>`;
* `DATA <stream> <text>`.

Any other line is a violation of the protocol, and a line of blanks is nothing.
The codec keeps track of the streams that are open, and can be told beforehand to
fail, to report that a stream is not writable, or to report events that no input
stands for.
-/

namespace FrameBridge

/-- A codec of lines. -/
structure LineCodec where
  /-- Events to report before anything that the input stands for. -/
  scripted : List Event := []
  unwritable : StreamSet := .empty
  openStreams : StreamSet := .empty
  lastRemote : StreamId := .connection
  /-- Whether the peer is told of octets that are given back. -/
  tellsPeer : Bool := true
  drainFailure : Option ProtocolError := none
  consumeFailure : Option ProtocolError := none
  upgradeFailure : Option ProtocolError := none
deriving Inhabited

namespace LineCodec

/-! ### Encoding -/

/-- The line of a frame, without its end. -/
def line : Outgoing → String
  | .headers s _ _ ends =>
      Dump.record "Headers" [("stream_id", s.dump), ("end_of_stream", Dump.flag ends)]
  | .data s d _ ends =>
      Dump.record "Data"
        [("stream_id", s.dump), ("data", Quoted.bytes d), ("end_of_stream", Dump.flag ends)]
  | .ping _ n => Dump.wrap "Ping" [n.dump]
  | .reset s c => Dump.record "Reset" [("stream_id", s.dump), ("error_code", c.dump)]
  | .goAway last c _ =>
      Dump.record "GoAway" [("last_stream_id", last.dump), ("error_code", c.dump)]
  | .settings s => Dump.wrap "Settings" [s.dump]
  | .pushPromise s promised _ _ =>
      Dump.record "PushPromise"
        [("stream_id", s.dump), ("promised_stream_id", promised.dump)]
  | .frame t s _ _ =>
      Dump.record "Frame" [("frame_type", Dump.number t.toNat), ("stream_id", s.dump)]

/-- The line that tells the peer of octets given back. -/
def windowLine (s : StreamId) (n : UInt32) : String :=
  Dump.record "WindowUpdate" [("stream_id", s.dump), ("num_bytes", Dump.number n.toNat)]

/-- A request to write a line. -/
def emit (text : String) (p : Promise) : ChannelRequest :=
  .write (Bytes.ofText (text ++ "\n")) p

/-- What the codec leaves at the channel after a frame. -/
def aftermath (c : LineCodec) : Outgoing → List ChannelRequest
  | .reset s _ => if c.openStreams.contains s then [.notify (.stream .closed s)] else []
  | .goAway last code debug => [.notify (.goAway ⟨.sent, last, code, debug⟩)]
  | .headers .. | .data .. | .ping .. | .settings _ | .pushPromise .. | .frame .. => []

/-- The streams that are open after a frame. -/
def openAfter (c : LineCodec) : Outgoing → StreamSet
  | .headers s .. => c.openStreams.insert s
  | .pushPromise _ promised .. => c.openStreams.insert promised
  | .reset s _ => c.openStreams.erase s
  | .data .. | .ping .. | .goAway .. | .settings _ | .frame .. => c.openStreams

/-- Encodes one frame. -/
def encode (c : LineCodec) (f : Outgoing) (p : Promise) : CodecStep LineCodec Unit :=
  ⟨{ c with openStreams := c.openAfter f }, emit (line f) p :: c.aftermath f, ()⟩

/-! ### Decoding -/

/-- A number of 32 bits in decimal digits, after a plus sign or none. -/
def number? (cs : List Char) : Option UInt32 :=
  let digits := match cs with
    | '+' :: rest => rest
    | _ => cs
  if !digits.isEmpty && digits.all Char.isDigit then
    let n := digits.foldl (fun n d => 10 * n + (d.toNat - '0'.toNat)) 0
    if n < 0x100000000 then some (.ofNat n) else none
  else none

/-- The characters before the first space, and those after it if there is one. -/
def cut (cs : List Char) : List Char × Option (List Char) :=
  (cs.takeWhile (· != ' '),
    match cs.dropWhile (· != ' ') with
    | [] => none
    | _ :: rest => some rest)

/-- The violation that an unreadable line is. -/
def unreadable (text : List Char) : Event :=
  .error (.connection .protocolError ("unreadable frame: " ++ String.ofList text))

/-- Reads one line that is not blank. -/
def readLine (c : LineCodec) (text : List Char) : Event × LineCodec :=
  let (keyword, rest) := cut text
  let (first, more) := match rest with
    | none => (none, none)
    | some rest => let (first, more) := cut rest; (some first, more)
  -- A second word that is not a number counts as no stream at all.
  let stream := (first.bind number?).map fun n => StreamId.ofNat n.toNat
  match String.ofList keyword, stream with
  | "SETTINGS", none => (.frame (.settings .empty), c)
  | "PING", none => (.frame (.ping ⟨0⟩), c)
  | "HEADERS", some s =>
      (.frame (.headers s (Headers.empty.insert (Bytes.ofText ":path") (Bytes.ofText "/"))
          (some .standard) 0 false),
        { c with
          openStreams := c.openStreams.insert s
          lastRemote := if c.lastRemote.val < s.val then s else c.lastRemote })
  | "DATA", some s =>
      let data := Bytes.ofText (String.ofList (more.getD []))
      -- A length that does not fit counts as the longest that does.
      (.frame (.data s data 0 false (.ofNat (min data.length 0xffffffff))), c)
  | "GOAWAY", some s => (.goAway ⟨.received, s, .noError, []⟩, c)
  | "CLOSE", some s => (.stream .closed s, { c with openStreams := c.openStreams.erase s })
  | _, _ => (unreadable text, c)

/-- Splits octets after each line feed: the whole lines without it, and what is left.
The first argument holds what the first line starts with, last octet first. -/
def splitLines : Bytes → Bytes → List Bytes × Bytes
  | line, [] => ([], line.reverse)
  | line, b :: rest =>
      if b = 0x0a then
        let (lines, left) := splitLines [] rest
        (line.reverse :: lines, left)
      else splitLines (b :: line) rest

/-- Reads lines in order. -/
def readLines (c : LineCodec) : List Bytes → List Event × LineCodec
  | [] => ([], c)
  | line :: lines =>
      let text := Blank.trimChars (Utf8.decodeCharsLossy line)
      if text.isEmpty then c.readLines lines
      else
        let (e, c) := c.readLine text
        let (es, c) := c.readLines lines
        (e :: es, c)

/-- Decodes every whole line. -/
def decode (c : LineCodec) (input : Bytes) : CodecStep LineCodec Decoded :=
  let (lines, rest) := splitLines [] input
  let (events, next) := { c with scripted := [] }.readLines lines
  ⟨next, [], ⟨c.scripted ++ events, rest⟩⟩

/-! ### The codec -/

/-- The answer to an upgrade: stream 1 is open, and a failure is reported once. -/
def upgrade (c : LineCodec) : CodecStep LineCodec (Except ProtocolError Unit) :=
  ⟨{ c with openStreams := c.openStreams.insert (.ofNat 1), upgradeFailure := none }, [],
    match c.upgradeFailure with
    | none => .ok ()
    | some e => .error e⟩

/-- Writes what the windows allow, or fails once if told to. -/
def drain (c : LineCodec) : CodecStep LineCodec (Except ProtocolError Unit) :=
  match c.drainFailure with
  | some e => ⟨{ c with drainFailure := none }, [], .error e⟩
  | none => ⟨c, [emit "WritePending" .void], .ok ()⟩

/-- Gives octets back, or fails once if told to. -/
def consume (c : LineCodec) (s : StreamId) (n : UInt32) :
    CodecStep LineCodec (Except ProtocolError Bool) :=
  match c.consumeFailure with
  | some e => ⟨{ c with consumeFailure := none }, [], .error e⟩
  | none => if c.tellsPeer then ⟨c, [emit (windowLine s n) .void], .ok true⟩ else ⟨c, [], .ok false⟩

/-- Settles whether a stream reports itself as writable. -/
def setWritable (c : LineCodec) (s : StreamId) (writable : Bool) : LineCodec :=
  { c with unwritable := if writable then c.unwritable.erase s else c.unwritable.insert s }

/-- What a codec is told beforehand.  What is left out stays as it is. -/
structure Tuning where
  tellsPeer : Option Bool := none
  unwritable : List StreamId := []
  drainFailure : Option ProtocolError := none
  consumeFailure : Option ProtocolError := none
  upgradeFailure : Option ProtocolError := none
  scripted : List Event := []
deriving Repr, Inhabited

/-- Tells the codec what to do later. -/
def tune (c : LineCodec) (t : Tuning) : LineCodec :=
  { c with
    tellsPeer := t.tellsPeer.getD c.tellsPeer
    unwritable := t.unwritable.foldl StreamSet.insert c.unwritable
    drainFailure := t.drainFailure <|> c.drainFailure
    consumeFailure := t.consumeFailure <|> c.consumeFailure
    upgradeFailure := t.upgradeFailure <|> c.upgradeFailure
    scripted := c.scripted ++ t.scripted }

instance : Codec LineCodec where
  activate c := ⟨c, [emit "Preface" .void], ()⟩
  deactivate c :=
    ⟨{ c with openStreams := .empty },
      c.openStreams.toList.map fun s => .notify (.stream .closed s), ()⟩
  upgradeServer c _ := { c with lastRemote := .ofNat 1 }.upgrade
  upgradeClient := upgrade
  decode := decode
  encode := encode
  isWritable c s := !c.unwritable.contains s
  drain := drain
  consume := consume
  lastRemote := lastRemote

end LineCodec

end FrameBridge
