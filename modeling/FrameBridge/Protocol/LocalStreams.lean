import FrameBridge.Protocol.Error

/-!
# Local stream identifiers

A session hands out the identifiers of the streams that it opens itself, two
apart, until the identifiers of 31 bits are used up.  The counter is a word of
32 bits; it moves only while the identifier it holds is a valid one, so it never
wraps.
-/

namespace FrameBridge

/-- The next identifier to hand out. -/
structure LocalStreams where
  next : UInt32
deriving DecidableEq, Repr, Inhabited

namespace LocalStreams

/-- The first identifier: servers open even streams, clients odd ones, and stream 1
of a client that came from an upgrade is taken by the upgrade. -/
def start (role : Role) (upgraded : Bool) : LocalStreams :=
  match role, upgraded with
  | .server, _ => ⟨2⟩
  | .client, false => ⟨1⟩
  | .client, true => ⟨3⟩

/-- Whether an identifier is left. -/
def hasNext (l : LocalStreams) : Bool :=
  l.next ≤ 0x7fffffff

/-- The identifier that would be handed out next. -/
def peek? (l : LocalStreams) : Option StreamId :=
  if l.hasNext then some (.ofNat l.next.toNat) else none

/-- Hands out an identifier, or reports that none is left. -/
def reserve (l : LocalStreams) : Except BridgeError StreamId × LocalStreams :=
  if l.hasNext then (.ok (.ofNat l.next.toNat), ⟨l.next + 2⟩)
  else (.error .streamIdsExhausted, l)

/-- Hands out identifiers a number of times; the answer is that of the last time. -/
def reserveMany (l : LocalStreams) (n : Nat) :
    Option (Except BridgeError StreamId) × LocalStreams :=
  n.repeat (fun (_, l) => (some l.reserve.1, l.reserve.2)) (none, l)

/-- The diagnostic text of the counter. -/
def dump (l : LocalStreams) : String :=
  Dump.record "LocalStreamIds" [("next", Dump.number l.next.toNat)]

end LocalStreams

end FrameBridge
