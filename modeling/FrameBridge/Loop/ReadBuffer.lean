import FrameBridge.Text.Bytes

/-!
# The buffer for input

Input is read into a buffer of some capacity and consumed from its front.  How
much one read may bring depends on the room behind the data, and the buffer grows
only when there is no room at all.

The buffer is a part of a larger store: what is consumed from the front stays in
the store, and is used again when that is cheaper than growing.
-/

namespace FrameBridge

/-- A buffer for input. -/
structure ReadBuffer where
  data : Bytes := []
  /-- The room for data, counted from its start. -/
  capacity : Nat
  /-- The size of the whole store. -/
  store : Nat
  /-- Where in the store the data starts. -/
  offset : Nat := 0
  /-- Whether anything was ever consumed. -/
  isSplit : Bool := false
deriving DecidableEq, Repr, Inhabited

namespace ReadBuffer

/-- An empty buffer. -/
def ofCapacity (n : Nat) : ReadBuffer := { capacity := n, store := n }

/-- The least room that a buffer without room is given. -/
def leastRoom : Nat := 64

/-- Makes room.  A buffer from which nothing was consumed doubles.  Otherwise the store is
used as far as it reaches; if it does not reach, the data moves to its front where it would
not overlap itself; and if that gives too little room, the store doubles. -/
def grow (b : ReadBuffer) : ReadBuffer :=
  let needed := b.data.length + leastRoom
  if !b.isSplit then
    -- The buffer still owns its store alone, and the data starts at its front.
    let store := max (max (2 * b.capacity) needed) 8
    { b with capacity := store, store }
  else if needed + b.offset ≤ b.store then { b with capacity := needed }
  else if needed ≤ b.store && b.data.length ≤ b.offset then
    { b with capacity := b.store, offset := 0 }
  else
    -- The octets in front of the data are paid for again, since the data stays where it is.
    let wanted := max (2 * b.store) (needed + b.offset)
    let store := max (max (2 * b.store) wanted) 8
    { b with capacity := store - b.offset, store }

/-- The buffer before a read: there is room. -/
def prepare (b : ReadBuffer) : ReadBuffer :=
  if b.data.length < b.capacity then b else b.grow

/-- The number of octets that a read may bring. -/
def room (b : ReadBuffer) : Nat := b.capacity - b.data.length

/-- Octets were read. -/
def append (b : ReadBuffer) (xs : Bytes) : ReadBuffer := { b with data := b.data ++ xs }

/-- The front of the data was consumed, and `left` is what is left. -/
def consume (b : ReadBuffer) (left : Bytes) : ReadBuffer :=
  let n := b.data.length - left.length
  if n = 0 then { b with data := left }
  else { b with data := left, capacity := b.capacity - n, offset := b.offset + n, isSplit := true }

end ReadBuffer

end FrameBridge
