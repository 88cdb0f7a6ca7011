import FrameBridge.Application.Connection

/-!
# Connections that play a script

A connection for rehearsals.  For each cue it has a list of actions, which it
plays a limited number of times.
-/

namespace FrameBridge

/-- The occasions for which a script has actions. -/
inductive Cue where
  | settings
  /-- Headers with a priority. -/
  | headers
  /-- Any frame, after whatever is played for headers. -/
  | frame
  | goAwaySent
  | goAwayReceived
  | streamClosed
  | writability
  | connectionError
  | streamError
  | closed
deriving DecidableEq, Repr, Inhabited

/-- The part of a script for one cue, and how often it may still be played. -/
structure Part where
  cue : Cue
  actions : List Action
  left : Nat
deriving Repr, Inhabited

/-- A connection that plays a script.  A plain one has no frame callback of its own, and
does nothing about errors of streams. -/
structure Script where
  isPlain : Bool := false
  runsHandedOver : Bool := true
  parts : List Part := []
deriving Repr, Inhabited

namespace Script

/-- The cues of a callback, in order. -/
def cues (isPlain : Bool) : Callback → List Cue
  | .settings _ => [.settings]
  | .frame f => if f.kind = .priorityHeaders then [.headers, .frame] else [.frame]
  | .goAway g =>
      match g.direction with
      | .sent => [.goAwaySent]
      | .received => [.goAwayReceived]
  | .streamClosed _ => [.streamClosed]
  | .writabilityChanged _ => [.writability]
  | .connectionError _ => [.connectionError]
  | .streamError .. => if isPlain then [] else [.streamError]
  | .closed => [.closed]

/-- Plays the parts for one cue. -/
def playCue (cue : Cue) : List Part → List Part × List Action
  | [] => ([], [])
  | p :: ps =>
      let (ps, actions) := playCue cue ps
      if p.cue = cue && p.left != 0 then
        ({ p with left := p.left - 1 } :: ps, p.actions ++ actions)
      else (p :: ps, actions)

/-- Plays the parts for several cues, one cue after the other. -/
def playCues : List Cue → List Part → List Part × List Action
  | [], ps => (ps, [])
  | cue :: cues, ps =>
      let (ps, first) := playCue cue ps
      let (ps, rest) := playCues cues ps
      (ps, first ++ rest)

instance : Connection Script where
  respond s c :=
    let (parts, actions) := playCues (cues s.isPlain c) s.parts
    ({ s with parts }, actions)
  runsHandedOver := runsHandedOver
  takesFrames s := !s.isPlain

end Script

/-- A connection that does at once whatever is handed over to it. -/
structure Prompt (σ : Type) where
  connection : σ

instance {σ : Type} [Connection σ] : Connection (Prompt σ) where
  respond s c :=
    let (connection, actions) := Connection.respond s.connection c
    (⟨connection⟩, actions)
  takesFrames s := Connection.takesFrames s.connection
  prepare s := Connection.prepare s.connection

end FrameBridge
