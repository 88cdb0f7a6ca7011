import FrameBridge.Hub.Journal
import FrameBridge.Hub.Metrics
import FrameBridge.Hub.Notice
import FrameBridge.Protocol.LocalStreams

/-!
# The hub

The part of the world that several bridges share: for each loop the queue of
commands from elsewhere and the identifiers of its streams, the scope of the loop
that is running now, and the records of what happened.

A command goes to exactly one place.  Code that runs on the loop of the command's
own bridge queues it inline, in the scope; any other code puts it into the queue
of that loop, or drops it if the queue is gone.

Operations that end a write return the resolution they cause.  What follows from a
resolution is settled beside the handles, since the code that waits for a write may
use handles itself.
-/

namespace FrameBridge

/-- What every handle of a bridge shares. -/
structure Mailbox where
  queue : List Command := []
  isOpen : Bool := true
  streams : LocalStreams
deriving Repr, Inhabited

/-- The loop that runs now, and the commands queued inline on it. -/
structure Scope where
  loop : LoopId
  inline : List Command := []
deriving Repr, Inhabited

/-- One use of a handle by code that waits for a write.  Without a `target` it is the handle of
the bridge that the write was asked of. -/
structure HandleUse where
  target : Option LoopId := none
  offLoop : Bool := false
  action : HandleAction
deriving DecidableEq, Repr, Inhabited

/-- The code of a callback that waits for a write, under the label of its watch.  It runs once, and
it comes to its end: code that panics there, as an `Action` may, is left out. -/
structure Reaction where
  label : String
  uses : List HandleUse
deriving DecidableEq, Repr, Inhabited

/-- An event that a bridge delivered. -/
structure Arrival where
  loop : LoopId
  event : Event
deriving DecidableEq, Repr, Inhabited

/-- A violation that the codec of a bridge was asked to react to. -/
structure Referral where
  loop : LoopId
  error : ProtocolError
deriving DecidableEq, Repr, Inhabited

/-- What bridges share.  Whatever is only ever added to has its newest element first. -/
structure Hub where
  mailboxes : List Mailbox := []
  scope : Option Scope := none
  /-- The watches that were handed out. -/
  issued : List Watch := []
  /-- The code of callbacks that have not been called yet. -/
  reactions : List Reaction := []
  journal : List Record := []
  /-- The events that bridges delivered. -/
  arrivals : List Arrival := []
  /-- The violations that codecs were asked to react to. -/
  referrals : List Referral := []
  notices : List Notice := []
  metrics : Metrics := {}
deriving Repr, Inhabited

namespace Hub

/-- Enters something into the journal. -/
def record (h : Hub) (loop : LoopId) (e : Entry) : Hub :=
  { h with journal := ⟨loop, e⟩ :: h.journal }

/-- Tells the operator. -/
def notice (h : Hub) (n : Notice) : Hub :=
  { h with notices := n :: h.notices }

/-- Changes the metrics. -/
def meter (h : Hub) (f : Metrics → Metrics) : Hub :=
  { h with metrics := f h.metrics }

/-- The mailbox of a loop. -/
def mailbox (h : Hub) (loop : LoopId) : Mailbox :=
  (h.mailboxes[loop.index]?).getD default

/-- Changes the mailbox of a loop. -/
def modifyMailbox (h : Hub) (loop : LoopId) (f : Mailbox → Mailbox) : Hub :=
  { h with mailboxes := h.mailboxes.modify loop.index f }

/-- Whether a loop exists and takes commands from elsewhere. -/
def isOpen (h : Hub) (loop : LoopId) : Bool :=
  (h.mailboxes[loop.index]?).any (·.isOpen)

/-- Enters a delivered event. -/
def arrive (h : Hub) (loop : LoopId) (e : Event) : Hub :=
  { h with arrivals := ⟨loop, e⟩ :: h.arrivals }

/-- Enters a violation that a codec is asked to react to. -/
def refer (h : Hub) (loop : LoopId) (e : ProtocolError) : Hub :=
  { h with referrals := ⟨loop, e⟩ :: h.referrals }

/-- Enters how a watched write ended. -/
def log (h : Hub) (r : Resolution) : Hub :=
  match r.promise with
  | .void => h
  | .watched w => h.record w.home (.resolved w r.outcome)

/-- A new watch on a write. -/
def watch (h : Hub) (home : LoopId) (kind : WatchKind) (label : String)
    (promised : Option StreamId) : Watch × Hub :=
  let w : Watch := ⟨h.issued.length, home, kind, label, promised⟩
  (w, { h with issued := w :: h.issued })

/-- The promise that a request for watching stands for. -/
def promise (h : Hub) (home : LoopId) : WatchRequest → Promise × Hub
  | none => (.void, h)
  | some (kind, label) =>
      let (w, h) := h.watch home kind label none
      (.watched w, h)

/-- Hands out an identifier of a loop's bridge. -/
def reserve (h : Hub) (loop : LoopId) : Except BridgeError StreamId × Hub :=
  let (r, streams) := (h.mailbox loop).streams.reserve
  (r, h.modifyMailbox loop fun m => { m with streams })

/-- Whether code that runs now runs on the loop. -/
def isCurrent (h : Hub) (loop : LoopId) : Bool :=
  h.scope.any (·.loop == loop)

/-- Queues a command from code that runs elsewhere. -/
def enqueue (h : Hub) (loop : LoopId) (c : Command) : Hub × Option Resolution :=
  if h.isOpen loop then (h.modifyMailbox loop fun m => { m with queue := m.queue ++ [c] }, none)
  else (h, some c.promise.abandoned)

/-- Sends a command to its loop.  With `offLoop` the sender runs no loop. -/
def dispatch (h : Hub) (loop : LoopId) (offLoop : Bool) (c : Command) :
    Hub × Option Resolution :=
  match offLoop, h.scope with
  | false, some s =>
      if s.loop = loop then ({ h with scope := some { s with inline := s.inline ++ [c] } }, none)
      else h.enqueue loop c
  | _, _ => h.enqueue loop c

/-- The commands queued inline on the loop that runs now, and the hub without them. -/
def takeInline (h : Hub) : List Command × Hub :=
  match h.scope with
  | none => ([], h)
  | some s => (s.inline, { h with scope := some { s with inline := [] } })

/-- The oldest command in the queue of a loop. -/
def nextCommand (h : Hub) (loop : LoopId) : Option (Command × Hub) :=
  match (h.mailbox loop).queue with
  | [] => none
  | c :: rest => some (c, h.modifyMailbox loop fun m => { m with queue := rest })

/-- Enters the scope of a loop; the loop that runs already keeps its scope. -/
def enter (h : Hub) (loop : LoopId) : Hub :=
  if h.isCurrent loop then h else { h with scope := some { loop := loop } }

end Hub

end FrameBridge
