import FrameBridge.Protocol.Error

/-!
# Promises

A promise is the completing side of one write.  Whoever asked for the write may
watch it, either by a future that is looked at later or by a callback that runs
at once; a promise that nobody watches has no identity of its own.  A promise
that is dropped counts as completed with `BridgeError.channelClosed`.

The module holds the promise and what may be reported through it.  That each
promise is completed at most once is a property of the places that hold
promises, and is not built into the type.
-/

namespace FrameBridge

/-- The loop that owns a bridge; bridges are numbered in the order in which they
were built. -/
structure LoopId where
  index : Nat
deriving DecidableEq, Repr, Inhabited

/-- The name of a loop in messages. -/
def LoopId.display (l : LoopId) : String := "loop#" ++ Dump.number l.index

/-- The diagnostic text of a loop's name. -/
def LoopId.dump (l : LoopId) : String := Dump.wrap "LoopId" ["#" ++ Dump.number l.index]

/-- How a write is watched. -/
inductive WatchKind where
  | future
  | callback
deriving DecidableEq, Repr, Inhabited

/-- The diagnostic name of a way to watch. -/
def WatchKind.dump : WatchKind → String
  | .future => "future"
  | .callback => "callback"

/-- A watched write: which one it is, where it was asked for, how it is watched
and under what label, and the promised stream that success reports. -/
structure Watch where
  ticket : Nat
  home : LoopId
  kind : WatchKind
  label : String
  promised : Option StreamId
deriving DecidableEq, Repr, Inhabited

/-- The completing side of one write. -/
inductive Promise where
  | void
  | watched (watch : Watch)
deriving DecidableEq, Repr, Inhabited

/-- How a write ended. -/
abbrev Outcome := Except BridgeError Unit

/-- A promise together with how its write ended. -/
structure Resolution where
  promise : Promise
  outcome : Outcome
deriving Repr, Inhabited

namespace Promise

/-- The watch of a promise, if somebody watches it. -/
def watch? : Promise → Option Watch
  | .void => none
  | .watched w => some w

/-- The diagnostic text of a promise that is still open. -/
def dump (p : Promise) : String :=
  Dump.wrap "WritePromise"
    [Quoted.text (match p with
      | .void => "void"
      | .watched w => w.kind.dump)]

/-- The promise is dropped without having been completed. -/
def abandoned (p : Promise) : Resolution := ⟨p, .error .channelClosed⟩

end Promise

end FrameBridge
