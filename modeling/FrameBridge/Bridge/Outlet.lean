import FrameBridge.Bridge.Run
import FrameBridge.Hub.Handle

/-!
# The outlet

The outbound side of a bridge: its codec, its channel, and the hub around them.
Every write ends here, whoever asked for it.

Before a write is made, the commands queued inline by then are performed, so that
frames reach the channel in the order in which they were asked for.  Once a write
has failed no other is made until the fault has been handled; a refused write
drops its promise.
-/

namespace FrameBridge

/-- The outbound side of a bridge. -/
structure Outlet (κ : Type) where
  home : LoopId
  codec : κ
  channel : Channel
  hub : Hub

namespace Outlet

variable {κ : Type}

/-- Enters something into the journal. -/
def record (o : Outlet κ) (e : Entry) : Outlet κ :=
  { o with hub := o.hub.record o.home e }

/-- Enters a violation that the codec is asked to react to. -/
def refer (o : Outlet κ) (e : ProtocolError) : Outlet κ :=
  { o with hub := o.hub.refer o.home e }

/-- Drops a promise. -/
def abandon (o : Outlet κ) (p : Promise) : Outlet κ :=
  { o with hub := o.hub.abandon p }

/-- Buffers an encoded frame.  Only frames that the channel takes in are counted. -/
def accept (o : Outlet κ) (f : Outbound) : Outlet κ :=
  let (channel, ended) := o.channel.write f
  let hub :=
    if o.channel.isActive then (o.hub.record o.home (.accepted f)).meter Metrics.countOutbound
    else o.hub
  { o with channel, hub := hub.resolveAll ended }

/-- Hands the buffered frames to the transport. -/
def flush (o : Outlet κ) : Outlet κ :=
  { o.record .flushed with channel := o.channel.flush }

/-- Asks for the transport to be closed. -/
def close (o : Outlet κ) : Outlet κ :=
  let hub :=
    if o.channel.closeRequested then o.hub
    else o.hub.notice (.closeRequested o.channel.pending.length)
  { o with channel := o.channel.requestClose, hub }

/-- Leaves a fault at the channel. -/
def raise (o : Outlet κ) (e : ProtocolError) : Outlet κ :=
  { o with channel := o.channel.raise (.protocol e) }

/-- Does what a codec asked of the channel. -/
def carryOut (o : Outlet κ) : ChannelRequest → Outlet κ
  | .write bytes promise => o.accept ⟨bytes, promise⟩
  | .notify e => { o with channel := o.channel.notify e }
  | .raise e => { o with channel := o.channel.raise e }
  | .flush => o.flush
  | .close => o.close

/-- Enters a call to the codec into the journal and puts its effects in place. -/
def call {α : Type} (o : Outlet κ) (describe : α → CodecCall) (s : CodecStep κ α) :
    α × Outlet κ :=
  (s.result,
    s.requests.foldl carryOut { o.record (.codec (describe s.result)) with codec := s.codec })

/-- Leaves the failure of a call to the codec as a fault. -/
def orRaise {α : Type} : Except ProtocolError α × Outlet κ → Outlet κ
  | (.ok _, o) => o
  | (.error e, o) => o.raise e

variable [Codec κ]

/-- Encodes one frame. -/
def encode (o : Outlet κ) (f : Outgoing) (p : Promise) : Outlet κ :=
  (o.call (fun _ => .encode f) (Codec.encode o.codec f p)).2

/-- Writes what the windows allow. -/
def drain (o : Outlet κ) : Outlet κ :=
  orRaise (o.call .drain (Codec.drain o.codec))

/-- What follows the encoding of a frame.  A push promise waits for the next frame that
is flushed; data that ends its stream, or fills its window, is drained first. -/
def afterEncoding (o : Outlet κ) : Command → Outlet κ
  | .pushPromise .. => o
  | .data s _ ends => (if ends || !Codec.isWritable o.codec s then o.drain else o).flush
  | .headers .. | .ping .. | .frame .. | .reset .. | .goAway .. | .settings .. => o.flush

/-- Makes a write, or refuses it while a fault waits. -/
def perform (o : Outlet κ) (c : Command) : Outlet κ :=
  if o.channel.hasFault then o.abandon c.promise
  else (o.encode c.outgoing c.promise).afterEncoding c

/-- Performs the commands queued inline.  A callback that runs meanwhile may queue more, and
these go before the next of the others; the number of callbacks bounds how deep this goes. -/
def catchUpWithin : Nat → Outlet κ → Outlet κ
  | 0, o =>
      let (cs, hub) := o.hub.takeInline
      cs.foldl perform { o with hub }
  | depth + 1, o =>
      let (cs, hub) := o.hub.takeInline
      cs.foldl (fun o c => (catchUpWithin depth o).perform c) { o with hub }

/-- Performs the commands queued inline, and those that callbacks queue meanwhile. -/
def catchUp (o : Outlet κ) : Outlet κ :=
  catchUpWithin o.hub.reactions.length o

/-- Makes a write after everything that was asked for before it. -/
def write (o : Outlet κ) (c : Command) : Outlet κ :=
  o.catchUp.perform c

/-- Gives octets back to the window of a stream, and flushes if the peer is told; nothing is given
back while a fault waits. -/
def giveBack (o : Outlet κ) (s : StreamId) (n : UInt32) : Outlet κ :=
  if o.channel.hasFault then o
  else
    match o.call (.consume s n) (Codec.consume o.codec s n) with
    | (.ok true, o) => o.flush
    | (.ok false, o) => o
    | (.error e, o) => o.raise e

/-- Gives octets back after everything that was asked for before. -/
def consume (o : Outlet κ) (s : StreamId) (n : UInt32) : Outlet κ :=
  o.catchUp.giveBack s n

/-- Promises a stream under the next identifier, which nobody watches. -/
def push (o : Outlet κ) (s : StreamId) (hs : Headers) :
    Except BridgeError StreamId × Outlet κ :=
  match o.hub.reserve o.home with
  | (.ok id, hub) => (.ok id, { o with hub }.write (.pushPromise s id hs .void))
  | (.error e, hub) => (.error e, { o with hub })

/-- Makes a write with a promise for whoever wants to watch it. -/
def writeWatched (o : Outlet κ) (w : WatchRequest) (c : Promise → Command) : Outlet κ :=
  let (p, hub) := o.hub.promise o.home w
  { o with hub }.write (c p)

/-- Does one action of a writer. -/
def act (o : Outlet κ) (now : StreamId) : WriterAction → Outlet κ
  | .headers s hs ends => o.write (.headers (s.resolve now) hs ends)
  | .data s d ends => o.write (.data (s.resolve now) d ends)
  | .ping n w => o.writeWatched w (.ping n)
  | .consume s n => o.consume (s.resolve now) n
  | .frame s t f d => o.write (.frame (s.resolve now) t f d)
  | .reset s c => o.write (.reset (s.resolve now) c)
  | .goAway c last d => o.write (.goAway c last d)
  | .settings s w => o.writeWatched w (.settings s)
  | .pushId s id hs w => o.writeWatched w (.pushPromise (s.resolve now) id hs)
  | .push s hs =>
      let (r, o) := o.push (s.resolve now) hs
      o.record (.answered (.pushed r))
  | .isWritable s => o.record (.answered (.isWritable (Codec.isWritable o.codec (s.resolve now))))
  | .isActive => o.record (.answered (.isActive o.channel.isActive))
  | .close => o.close

/-- Does one action of application code. -/
def step (hasWriter : Bool) (now : StreamId) (o : Outlet κ) : Action → Run (Outlet κ)
  | .write a => .done (if hasWriter then o.act now a else o)
  | .handle target offLoop a =>
      .done { o with hub := o.hub.use (target.getD o.home) offLoop now a }
  | .panic m => .stopped (.panicked m) o

/-- Runs application code. -/
def program (hasWriter : Bool) (now : StreamId) (o : Outlet κ) (actions : List Action) :
    Run (Outlet κ) :=
  Run.each (step hasWriter now) actions o

end Outlet

end FrameBridge
