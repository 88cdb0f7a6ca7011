import FrameBridge.Protocol.StreamId

/-!
# Maps from streams

A finite map from streams to values, kept as a list of pairs.  What is put in
for a stream replaces what was there, so a stream occurs at most once.
-/

namespace FrameBridge

/-- A finite map from streams. -/
structure StreamMap (α : Type) where
  entries : List (StreamId × α)
deriving Repr, Inhabited

namespace StreamMap

variable {α : Type}

/-- The map without streams. -/
def empty : StreamMap α := ⟨[]⟩

/-- The value for a stream. -/
def get? (m : StreamMap α) (s : StreamId) : Option α :=
  (m.entries.find? fun e => e.1 == s).map (·.2)

/-- Whether there is a value for a stream. -/
def contains (m : StreamMap α) (s : StreamId) : Bool := (m.get? s).isSome

/-- The map without a stream. -/
def erase (m : StreamMap α) (s : StreamId) : StreamMap α :=
  ⟨m.entries.filter fun e => e.1 != s⟩

/-- The map with a value for a stream. -/
def insert (m : StreamMap α) (s : StreamId) (a : α) : StreamMap α :=
  ⟨(s, a) :: (m.erase s).entries⟩

/-- The number of streams. -/
def size (m : StreamMap α) : Nat := m.entries.length

/-- The empty map has no value for any stream. -/
@[simp] theorem get?_empty (s : StreamId) : (empty : StreamMap α).get? s = none := rfl

/-- Taking a stream away takes away its value and no other. -/
@[simp] theorem get?_erase (m : StreamMap α) (s x : StreamId) :
    (m.erase s).get? x = if x = s then none else m.get? x := by
  simp only [get?, erase, List.find?_filter]
  split
  · rename_i h
    subst h
    simp [List.find?_eq_none]
  · rename_i h
    congr 2
    funext e
    by_cases he : e.1 = x
    · subst he
      simp [h]
    · simp [he]

/-- A stream has the value that was last put in for it. -/
@[simp] theorem get?_insert (m : StreamMap α) (s x : StreamId) (a : α) :
    (m.insert s a).get? x = if x = s then some a else m.get? x := by
  by_cases h : x = s
  · subst h
    simp [insert, get?]
  · have hne : (s == x) = false := by simp [Ne.symm h]
    have herase := get?_erase m s x
    simp only [h, ↓reduceIte, get?] at herase
    simp only [insert, get?, List.find?_cons, hne, h, ↓reduceIte]
    exact herase

end StreamMap

end FrameBridge
