import FrameBridge.Text.Dump

/-!
# Settings

The six values that one side of a session announces to the other.  A value that
is not announced is left to the default of the protocol.
-/

namespace FrameBridge

/-- Announced values. -/
structure Settings where
  headerTableSize : Option UInt32 := none
  enablePush : Option Bool := none
  maxConcurrentStreams : Option UInt32 := none
  initialWindowSize : Option UInt32 := none
  maxFrameSize : Option UInt32 := none
  maxHeaderListSize : Option UInt32 := none
deriving DecidableEq, Repr, Inhabited

namespace Settings

/-- Nothing is announced. -/
def empty : Settings := {}

/-- Whether nothing is announced. -/
def isEmpty (s : Settings) : Bool := s == empty

/-- One announcement: which value, and what it becomes. -/
inductive Choice where
  | headerTableSize (n : UInt32)
  | enablePush (b : Bool)
  | maxConcurrentStreams (n : UInt32)
  | initialWindowSize (n : UInt32)
  | maxFrameSize (n : UInt32)
  | maxHeaderListSize (n : UInt32)
deriving DecidableEq, Repr

/-- The settings after one more announcement; a later one replaces an earlier. -/
def choose (s : Settings) : Choice → Settings
  | .headerTableSize n => { s with headerTableSize := some n }
  | .enablePush b => { s with enablePush := some b }
  | .maxConcurrentStreams n => { s with maxConcurrentStreams := some n }
  | .initialWindowSize n => { s with initialWindowSize := some n }
  | .maxFrameSize n => { s with maxFrameSize := some n }
  | .maxHeaderListSize n => { s with maxHeaderListSize := some n }

/-- The diagnostic text of settings. -/
def dump (s : Settings) : String :=
  let word (w : Option UInt32) := Dump.optional (w.map fun n => Dump.number n.toNat)
  Dump.record "Settings"
    [("header_table_size", word s.headerTableSize),
      ("enable_push", Dump.optional (s.enablePush.map Dump.flag)),
      ("max_concurrent_streams", word s.maxConcurrentStreams),
      ("initial_window_size", word s.initialWindowSize),
      ("max_frame_size", word s.maxFrameSize),
      ("max_header_list_size", word s.maxHeaderListSize)]

/-- Settings are not empty after an announcement. -/
theorem choose_not_isEmpty (s : Settings) (c : Choice) : (s.choose c).isEmpty = false := by
  cases c <;> simp [choose, isEmpty, empty]

end Settings

end FrameBridge
