/-!
# The life of a bridge

A bridge goes through five states and never back.
-/

namespace FrameBridge

/-- How far a bridge has come. -/
inductive Lifecycle where
  /-- The transport has not started. -/
  | created
  /-- The preface of the connection is written. -/
  | prefaceSent
  /-- The peer's first settings created the connection. -/
  | settingsReceived
  /-- A close was asked for, and the transport is still up. -/
  | closing
  /-- The transport is gone. -/
  | closed
deriving DecidableEq, Repr, Inhabited

namespace Lifecycle

/-- The place of a state in the order. -/
def rank : Lifecycle → Nat
  | .created => 0
  | .prefaceSent => 1
  | .settingsReceived => 2
  | .closing => 3
  | .closed => 4

/-- Goes on to a later state; an earlier one changes nothing. -/
def advance (now next : Lifecycle) : Lifecycle :=
  if now.rank < next.rank then next else now

/-- Whether the transport is to be closed, or is closed. -/
def isEnding (l : Lifecycle) : Bool := Lifecycle.closing.rank ≤ l.rank

/-- The diagnostic name of a state. -/
def dump : Lifecycle → String
  | .created => "Created"
  | .prefaceSent => "PrefaceSent"
  | .settingsReceived => "SettingsReceived"
  | .closing => "Closing"
  | .closed => "Closed"

/-- A state never moves back. -/
theorem rank_le_advance (now next : Lifecycle) : now.rank ≤ (now.advance next).rank := by
  unfold advance
  split <;> omega

/-- A closed bridge stays closed. -/
theorem advance_closed (next : Lifecycle) : closed.advance next = closed := by
  cases next <;> rfl

/-- Going on to a state other than the last one leads to the last one only from there. -/
theorem advance_eq_closed_iff {next : Lifecycle} (hnext : next ≠ .closed)
    (now : Lifecycle) : now.advance next = .closed ↔ now = .closed := by
  cases now <;> cases next <;> first | contradiction | decide

end Lifecycle

end FrameBridge
