import FrameBridge.Application.Action
import FrameBridge.Hub.Basic

/-!
# Handles

A handle writes to a bridge from anywhere.  Each write becomes a command and goes
to the bridge's loop; a push promise reserves its identifier first, on the side of
the caller, so that identifiers follow the order of the calls.

A callback that waits for a write runs when the write ends, and may use handles.
Such a use may end another write at once, whose callback runs then.  Every callback
runs once, so this comes to an end.
-/

namespace FrameBridge

/-- What becomes of a write through a handle before it is sent. -/
inductive HandleStep where
  | command (command : Command)
  /-- There is no command, and the write has ended. -/
  | refused (resolution : Resolution)
  /-- It was a question. -/
  | answered
deriving Repr, Inhabited

namespace Hub

/-- A write through the handle of a bridge as a command. -/
def commandOf (h : Hub) (target : LoopId) (now : StreamId) : HandleAction → HandleStep × Hub
  | .headers s hs ends => (.command (.headers (s.resolve now) hs ends), h)
  | .data s d ends => (.command (.data (s.resolve now) d ends), h)
  | .frame s t f d => (.command (.frame (s.resolve now) t f d), h)
  | .reset s c => (.command (.reset (s.resolve now) c), h)
  | .goAway c last d => (.command (.goAway c last d), h)
  | .ping n label =>
      let (w, h) := h.watch target .future label none
      (.command (.ping n (.watched w)), h)
  | .settings s label =>
      let (w, h) := h.watch target .future label none
      (.command (.settings s (.watched w)), h)
  | .push s hs kind label =>
      match h.reserve target with
      | (.ok id, h) =>
          let (w, h) := h.watch target kind label (some id)
          (.command (.pushPromise (s.resolve now) id hs (.watched w)), h)
      | (.error e, h) =>
          let (w, h) := h.watch target kind label none
          (.refused ⟨.watched w, .error e⟩, h)
  | .isClosed => (.answered, h.record target (.answered (.isClosed (!h.isOpen target))))

/-- Uses the handle of a bridge.  A write that thereby ends is left to be resolved. -/
def useOnce (h : Hub) (target : LoopId) (offLoop : Bool) (now : StreamId) (a : HandleAction) :
    Hub × Option Resolution :=
  match h.commandOf target now a with
  | (.command c, h) => h.dispatch target offLoop c
  | (.refused r, h) => (h, some r)
  | (.answered, h) => (h, none)

/-- The code that waits for a write to end. -/
def reactionTo (h : Hub) : Promise → Option (LoopId × Reaction)
  | .void => none
  | .watched w =>
      match w.kind with
      | .future => none
      | .callback => (h.reactions.find? (·.label = w.label)).map fun r => (w.home, r)

/-- The code behind a label has been called. -/
def forget (h : Hub) (label : String) : Hub :=
  { h with reactions := h.reactions.eraseP (·.label = label) }

/-- Goes on with a write that has ended, if there is one. -/
def following (f : Hub → Resolution → Hub) : Hub × Option Resolution → Hub
  | (h, none) => h
  | (h, some r) => f h r

/-- Tells whoever watches a write how it ended.  Callbacks that are called because of other
callbacks are followed to a depth, which the number of callbacks bounds. -/
def resolveWithin : Nat → Hub → Resolution → Hub
  | 0, h, r => h.log r
  | depth + 1, h, r =>
      match h.reactionTo r.promise with
      | none => h.log r
      | some (home, reaction) =>
          reaction.uses.foldl
            (fun h u => following (resolveWithin depth)
              (h.useOnce (u.target.getD home) u.offLoop .connection u.action))
            ((h.log r).forget reaction.label)

/-- Tells whoever watches a write how it ended, and runs the code that waits for that. -/
def resolve (h : Hub) (r : Resolution) : Hub :=
  h.resolveWithin h.reactions.length r

/-- Tells of several writes, in order. -/
def resolveAll (h : Hub) (rs : List Resolution) : Hub :=
  rs.foldl resolve h

/-- Drops a promise. -/
def abandon (h : Hub) (p : Promise) : Hub :=
  h.resolve p.abandoned

/-- Drops commands, in order. -/
def abandonCommands (h : Hub) (cs : List Command) : Hub :=
  cs.foldl (fun h c => h.abandon c.promise) h

/-- Uses the handle of a bridge. -/
def use (h : Hub) (target : LoopId) (offLoop : Bool) (now : StreamId) (a : HandleAction) : Hub :=
  following resolve (h.useOnce target offLoop now a)

/-- The queue of a loop goes away: its commands are dropped and no more are taken. -/
def closeMailbox (h : Hub) (loop : LoopId) : Hub :=
  let left := (h.mailbox loop).queue
  (h.modifyMailbox loop fun m => { m with queue := [], isOpen := false }).abandonCommands left

/-- Leaves the scope of a loop for the one that was current before; commands that
are still queued inline are dropped. -/
def leave (h : Hub) (loop : LoopId) (before : Option Scope) : Hub :=
  if before.any (·.loop == loop) then h
  else
    let (left, h) := h.takeInline
    { h with scope := before }.abandonCommands left

end Hub

end FrameBridge
