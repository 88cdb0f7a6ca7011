import FrameBridge.Decoding.Listener

/-!
# What a listener hears

A listener is given frames, and is told which streams were closed, in any order.  For each of
these it has a reply, which is what leaves it on the way to the connection, and goes on to a next
state.
-/

namespace FrameBridge

/-- The stream that a frame names.  Here the connection counts as a stream, since a listener makes
no difference. -/
def Frame.named? : Frame → Option StreamId
  | .data s .. | .headers s .. | .priority s _ | .reset s _ | .pushPromise s ..
  | .windowUpdate s _ | .unknown _ s _ _ => some s
  | .settings _ | .settingsAck | .ping _ | .pingAck _ | .goAway .. => none

/-- What reaches a listener. -/
inductive Heard where
  | frame (frame : Frame)
  /-- A stream was closed. -/
  | closed (stream : StreamId)
deriving DecidableEq, Repr, Inhabited

/-- The stream that is spoken of. -/
def Heard.stream? : Heard → Option StreamId
  | .frame f => f.named?
  | .closed s => some s

/-- Whether a stream is over with what is heard of it. -/
def Heard.isLast : Heard → Bool
  | .closed _ | .frame (.reset ..) => true
  | .frame (.headers _ _ _ _ ends) | .frame (.data _ _ _ ends _) => ends
  | .frame _ => false

/-- A piece of a body. -/
def Heard.isBody : Heard → Bool
  | .frame (.data ..) => true
  | _ => false

/-- What leaves a listener. -/
structure Listener.Reply where
  frames : List Frame := []
  error : Option ProtocolError := none
  /-- The coding for which the listener needed a decoder. -/
  asked : Option String := none
  /-- Whether there was one. -/
  found : Bool := false
deriving DecidableEq, Repr, Inhabited

/-- What leaves a listener that makes this of a frame. -/
def Processed.reply {δ : Type} (r : Processed δ) : Listener.Reply :=
  ⟨r.frames, r.error, r.asked, r.found⟩

namespace Listener

variable {δ : Type}

/-- What is known of the body of a stream. -/
def coding? (l : Listener δ) (s : StreamId) : Option (Coding δ) := l.streams.get? s

variable [Decoder δ]

/-- The reply to what is heard. -/
def reply (l : Listener δ) : Heard → Reply
  | .frame f => (l.process f).reply
  | .closed _ => {}

/-- The listener that has heard something. -/
def next (l : Listener δ) : Heard → Listener δ
  | .frame f => (l.process f).listener
  | .closed s => l.streamClosed s

/-- The listener that has heard one thing after the other. -/
def after (l : Listener δ) (heard : List Heard) : Listener δ := heard.foldl next l

/-- All that is heard, each with the reply to it. -/
def replies (l : Listener δ) : List Heard → List (Heard × Reply)
  | [] => []
  | h :: heard => (h, l.reply h) :: (l.next h).replies heard

end Listener

end FrameBridge
