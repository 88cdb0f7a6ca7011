import FrameBridge.Text.Dump

/-!
# Stream identifiers

A stream is named by a number of 31 bits.  Streams that a client opens are odd,
streams that a server opens are even, and zero names the connection itself.
-/

namespace FrameBridge

/-- The name of a stream. -/
structure StreamId where
  val : Nat
  lt : val < 0x80000000
deriving DecidableEq, Repr

namespace StreamId

/-- The stream named by the low 31 bits of a number; the reserved bit above them
is cleared. -/
def ofNat (n : Nat) : StreamId :=
  ⟨n % 0x80000000, Nat.mod_lt _ (by decide)⟩

/-- The connection, seen as a stream. -/
def connection : StreamId := ⟨0, by decide⟩

/-- The highest stream there is. -/
def max : StreamId := ⟨0x7fffffff, by decide⟩

instance : Inhabited StreamId := ⟨connection⟩

/-- Whether the identifier names the connection itself. -/
def isConnection (s : StreamId) : Bool := s.val == 0

/-- Whether a client opens the stream. -/
def isClientInitiated (s : StreamId) : Bool := s.val % 2 == 1

/-- Whether a server opens the stream. -/
def isServerInitiated (s : StreamId) : Bool := s.val != 0 && s.val % 2 == 0

/-- The identifier in decimal. -/
def display (s : StreamId) : String := Dump.number s.val

/-- The diagnostic text of an identifier. -/
def dump (s : StreamId) : String := Dump.wrap "StreamId" [s.display]

/-- The number of a stream names that stream. -/
@[simp] theorem ofNat_val (s : StreamId) : ofNat s.val = s := by
  cases s with
  | mk val lt => simp only [ofNat, Nat.mod_eq_of_lt lt]

/-- The number of a stream that a number names is its low 31 bits. -/
theorem val_ofNat (n : Nat) : (ofNat n).val = n % 0x80000000 := rfl

end StreamId

end FrameBridge
