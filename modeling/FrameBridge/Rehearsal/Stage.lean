import FrameBridge.Bridge.Entries
import FrameBridge.Rehearsal.LineCodec
import FrameBridge.Rehearsal.Script

/-!
# Stages

A stage holds bridges over codecs of lines and connections that play scripts, and
lets them be driven step by step.  A step is an entry of a bridge, something done
to its channel or its queue, or something done to its codec beforehand.
-/

namespace FrameBridge

/-- The bridges of a rehearsal, the input that each has not consumed yet, and the hub. -/
structure Stage (δ : Type) where
  bridges : List (Bridge LineCodec Script δ) := []
  inputs : List Bytes := []
  hub : Hub := {}

/-- One step of a rehearsal. -/
inductive Step where
  | activate
  | deactivate
  | close
  | decode (data : Bytes)
  | event (event : Event)
  | idle (kind : IdleKind)
  | exception (error : BridgeError)
  | tune (tuning : LineCodec.Tuning)
  | setWritable (stream : StreamId) (writable : Bool)
  | write (actions : List Action)
  | withConnection (actions : List Action)
  /-- Uses handles from outside of every loop. -/
  | handle (actions : List Action)
  /-- Takes commands from the queue, at most so many, and applies or drops them.  Each is
  answered with its name, or with its diagnostic text. -/
  | apply (limit : Option Nat) (discard dump : Bool)
  | dropQueue
  /-- Takes the flushed frames and completes them. -/
  | flushOut (succeeding : Option Nat) (rest : Option BridgeError)
  | channelWrite (data : Bytes) (watch : WatchRequest)
  | channelFlush
  | channelClose
  | notify (event : Event)
  | raise (error : BridgeError)
  | dump
  /-- Enters the loop of this bridge, in it the loop of another one, and goes on in the
  first. -/
  | nested (other : Nat) (before inside after : List Action)
deriving Repr, Inhabited

/-- The answer to a step. -/
inductive Reply where
  | nothing
  | left (input : Bytes)
  | ran (value : Bool)
  | texts (texts : List String)
  | records (frames : List (List String))
  | text (text : String)
deriving Repr, Inhabited

variable {δ : Type}

/-- Takes the flushed frames of a bridge and completes them. -/
def Turn.flushOut (t : Turn LineCodec Script δ) (succeeding : Option Nat)
    (rest : Option BridgeError) : List Outbound × Turn LineCodec Script δ :=
  let (frames, channel) := t.bridge.channel.takeFlushed
  (frames,
    { bridge := { t.bridge with channel }
      hub := t.hub.resolveAll (resolveBatch frames (succeeding.getD frames.length) rest) })

/-- Puts a frame into the channel without asking the codec. -/
def Turn.channelWrite (t : Turn LineCodec Script δ) (data : Bytes) (w : WatchRequest) :
    Turn LineCodec Script δ :=
  let (promise, hub) := t.hub.promise t.bridge.id w
  { t with hub }.onOutlet (·.accept ⟨data, promise⟩)

variable [Decoder δ]

/-- Takes at most `limit` commands from the queue of a bridge, those that come in meanwhile
included. -/
def Turn.applyQueued (rounds : Nat) (discard dump : Bool) :
    Nat → Turn LineCodec Script δ → List String × Run (Turn LineCodec Script δ)
  | 0, t => ([], .done t)
  | limit + 1, t =>
      match t.hub.nextCommand t.bridge.id with
      | none => ([], .done t)
      | some (c, hub) =>
          let t := { t with hub }
          let text := if dump then c.dump else c.name
          let run : Run (Turn LineCodec Script δ) :=
            if discard then .done { t with hub := t.hub.abandon c.promise }
            else t.apply rounds c
          match run.stop with
          | some _ => ([text], run)
          | none =>
              let (texts, run) := Turn.applyQueued rounds discard dump limit run.state
              (text :: texts, run)

/-- Enters the loop of a bridge, in it the loop of another one, and goes on in the first. -/
def Turn.nested (rounds : Nat) (t : Turn LineCodec Script δ)
    (other : Bridge LineCodec Script δ) (before inside after : List Action) :
    Run (Turn LineCodec Script δ × Bridge LineCodec Script δ) :=
  let start := { t with hub := t.hub.enter t.bridge.id }
  let first := (start.program true .connection before).map fun u => (u, other)
  let second := first.andThen fun (u, other) =>
    (Turn.write rounds ⟨other, u.hub⟩ inside).map fun v => ({ u with hub := v.hub }, v.bridge)
  let third := second.andThen fun (u, other) =>
    (((u.record .innerDone).program true .connection after).andThen (Turn.settle rounds)).map
      fun u => (u, other)
  third.map fun (u, other) => ({ u with hub := u.hub.leave u.bridge.id t.hub.scope }, other)

namespace Stage

/-- Changes one bridge. -/
def put (s : Stage δ) (b : Nat) (t : Turn LineCodec Script δ) : Stage δ :=
  { s with bridges := s.bridges.set b t.bridge, hub := t.hub }

/-- Lets a bridge play a step. -/
def playOn (rounds : Nat) (s : Stage δ) (b : Nat) (t : Turn LineCodec Script δ) :
    Step → Reply × Run (Stage δ)
  | .activate => (.nothing, (t.activate rounds).map (s.put b))
  | .deactivate => (.nothing, (t.deactivate rounds).map (s.put b))
  | .close => (.nothing, .done (s.put b t.close))
  | .decode data =>
      let (left, run) := t.decode rounds (s.inputs.getD b [] ++ data)
      (.left left, run.map fun t => { s.put b t with inputs := s.inputs.set b left })
  | .event e => (.nothing, (t.handleEvent rounds e).map (s.put b))
  | .idle k => (.nothing, (t.onIdle rounds k).map (s.put b))
  | .exception e => (.nothing, (t.exceptionCaught rounds e).map (s.put b))
  | .tune tuning =>
      let codec := t.bridge.codec.tune tuning
      (.nothing, .done (s.put b { t with bridge := { t.bridge with codec } }))
  | .setWritable stream writable =>
      let codec := t.bridge.codec.setWritable stream writable
      (.nothing, .done (s.put b { t with bridge := { t.bridge with codec } }))
  | .write actions => (.nothing, (t.write rounds actions).map (s.put b))
  | .withConnection actions =>
      (.ran t.bridge.isEstablished, (t.withConnection rounds actions).map (s.put b))
  | .handle actions => (.nothing, (t.program false .connection actions).map (s.put b))
  | .apply limit discard dump =>
      let (texts, run) := t.applyQueued rounds discard dump (limit.getD rounds)
      (.texts texts, run.map (s.put b))
  | .dropQueue => (.nothing, .done { s with hub := s.hub.closeMailbox t.bridge.id })
  | .flushOut succeeding rest =>
      let (frames, t) := t.flushOut succeeding rest
      (.records (frames.map fun o => Utf8.records o.bytes), .done (s.put b t))
  | .channelWrite data watch => (.nothing, .done (s.put b (t.channelWrite data watch)))
  | .channelFlush => (.nothing, .done (s.put b (t.onOutlet .flush)))
  | .channelClose => (.nothing, .done (s.put b (t.onOutlet .close)))
  | .notify e => (.nothing, .done (s.put b (t.onChannel (·.notify e))))
  | .raise e => (.nothing, .done (s.put b (t.onChannel (·.raise e))))
  | .dump => (.text t.bridge.dump, .done s)
  | .nested other before inside after =>
      match s.bridges[other]? with
      | none => (.nothing, .done s)
      | some bridge =>
          (.nothing, (t.nested rounds bridge before inside after).map fun (t, bridge) =>
            { s.put b t with bridges := (s.bridges.set b t.bridge).set other bridge })

/-- Plays one step at the bridge with a number; where there is none nothing happens. -/
def play (rounds : Nat) (s : Stage δ) (b : Nat) (step : Step) : Reply × Run (Stage δ) :=
  match s.bridges[b]? with
  | none => (.nothing, .done s)
  | some bridge => s.playOn rounds b ⟨bridge, s.hub⟩ step

/-- The frames that a bridge still holds and the commands in its queue are dropped. -/
def dropBridge (hub : Hub) (b : Bridge LineCodec Script δ) : Hub :=
  (hub.resolveAll b.channel.markInactive.2).closeMailbox b.id

/-- Everything that is left is dropped. -/
def clear (s : Stage δ) : Hub :=
  s.bridges.foldl dropBridge s.hub

end Stage

end FrameBridge
