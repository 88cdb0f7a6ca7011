import FrameBridge.Bridge.Errors

/-!
# Routing

Where an event of the codec goes.  Once the bridge is closed it goes nowhere.
-/

namespace FrameBridge.Turn

variable {κ σ δ : Type} [Codec κ] [Connection σ] [Decoder δ]

/-- A violation of the protocol that the peer is to blame for. -/
def onViolation (t : Turn κ σ δ) (e : ProtocolError) : Run (Turn κ σ δ) :=
  (t.meter (·.countError .protocol)).onError e

/-- A frame for a connection that does not exist yet.  Settings create it. -/
def onEarlyFrame (t : Turn κ σ δ) (f : Frame) : Run (Turn κ σ δ) :=
  match f, t.bridge.blueprint with
  | .settings s, some blueprint => t.establish blueprint s
  | .settings _, none => t.onException (.connectionAbsent .settings)
  | f, _ =>
      match f.kind with
      | .priorityHeaders => t.onException (.connectionAbsent .priorityHeaders)
      | kind => t.onException (.unsupported kind)

/-- The listener's answer to a frame: it is kept, and what it was asked for is told. -/
def afterListening (t : Turn κ σ δ) (session : Session σ δ) (s : StreamId) (r : Processed δ) :
    Turn κ σ δ :=
  let t :=
    { t with bridge := { t.bridge with session := some { session with listener := r.listener } } }
  match r.asked with
  | none => t
  | some encoding =>
      let t := t.record (.asked encoding)
      if r.found then t.notice (.decodingBody s encoding) else t

/-- A frame for the connection. -/
def onFrame (t : Turn κ σ δ) (f : Frame) : Run (Turn κ σ δ) :=
  match t.bridge.session with
  | none => t.onEarlyFrame f
  | some session =>
      match session.listener with
      | none => t.tell (.frame f)
      | some listener =>
          let r := listener.process f
          let t := t.afterListening session (f.stream?.getD .connection) r
          (Run.each (fun t f => t.tell (.frame f)) r.frames t).andThen fun t =>
            match r.error with
            | none => .done t
            | some e => t.onViolation e

/-- A stream has changed.  Only its end is of interest. -/
def onStreamChange (t : Turn κ σ δ) (change : StreamChange) (s : StreamId) : Run (Turn κ σ δ) :=
  match change, t.bridge.session with
  | .closed, some session =>
      let listener := session.listener.map (·.streamClosed s)
      let t := { t with bridge := { t.bridge with session := some { session with listener } } }
      t.tell (.streamClosed s)
  | .closed, none => .done (t.notice (.streamClosedEarly s))
  | .added, _ | .active, _ | .halfClosed, _ | .removed, _ => .done t

/-- Tells the connection, or tells the operator that there is none. -/
def tellOr (t : Turn κ σ δ) (c : Callback) (n : Notice) : Run (Turn κ σ δ) :=
  if t.bridge.isEstablished then t.tell c else .done (t.notice n)

/-- Delivers one event of the codec. -/
def route (t : Turn κ σ δ) (e : Event) : Run (Turn κ σ δ) :=
  if t.bridge.state = .closed then .done (t.notice (.eventDropped t.bridge.id e))
  else
    let t := { t with hub := t.hub.arrive t.bridge.id e }
    match e with
    | .frame f => (t.meter Metrics.countInbound).onFrame f
    | .stream change s => t.onStreamChange change s
    | .goAway g => t.tellOr (.goAway g) (.goAwayEarly g)
    | .writabilityChanged s => t.tellOr (.writabilityChanged s) (.writabilityEarly s)
    | .error e => t.onViolation e

end FrameBridge.Turn
