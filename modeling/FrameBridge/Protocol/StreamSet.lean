import FrameBridge.Protocol.StreamId

/-!
# Sets of streams

A finite set of streams, kept as an ascending list so that it can be walked in
the order of the identifiers.
-/

namespace FrameBridge

/-- A finite set of streams. -/
structure StreamSet where
  toList : List StreamId
  ascending : toList.Pairwise fun a b => a.val < b.val

namespace StreamSet

/-- The set without streams. -/
def empty : StreamSet := ⟨[], List.Pairwise.nil⟩

instance : Inhabited StreamSet := ⟨empty⟩

/-- Whether the stream is in the set. -/
def contains (t : StreamSet) (s : StreamId) : Bool :=
  t.toList.contains s

/-- Puts a stream into its place in an ascending list. -/
def place (s : StreamId) : List StreamId → List StreamId
  | [] => [s]
  | x :: xs =>
      if s.val < x.val then s :: x :: xs
      else if x.val < s.val then x :: place s xs
      else x :: xs

/-- A list with a stream put into its place holds that stream and its own. -/
theorem mem_place {s x : StreamId} {xs : List StreamId} :
    x ∈ place s xs ↔ x = s ∨ x ∈ xs := by
  induction xs with
  | nil => simp [place]
  | cons y ys ih =>
      simp only [place]
      split
      · simp
      · split
        · simp only [List.mem_cons, ih]
          constructor
          · rintro (h | h | h) <;> simp [h]
          · rintro (h | h | h) <;> simp [h]
        · have hval : s.val = y.val := by omega
          have heq : s = y := by
            cases s; cases y; simp_all
          simp [heq]

/-- An ascending list stays ascending when a stream is put into its place. -/
theorem pairwise_place {s : StreamId} {xs : List StreamId}
    (h : xs.Pairwise fun a b => a.val < b.val) :
    (place s xs).Pairwise fun a b => a.val < b.val := by
  induction xs with
  | nil => simp [place]
  | cons y ys ih =>
      rw [List.pairwise_cons] at h
      simp only [place]
      split
      · rename_i hlt
        refine List.pairwise_cons.2 ⟨?_, List.pairwise_cons.2 h⟩
        intro z hz
        rcases List.mem_cons.1 hz with rfl | hz
        · exact hlt
        · exact Nat.lt_trans hlt (h.1 z hz)
      · split
        · rename_i hlt
          refine List.pairwise_cons.2 ⟨?_, ih h.2⟩
          intro z hz
          rcases mem_place.1 hz with rfl | hz
          · exact hlt
          · exact h.1 z hz
        · exact List.pairwise_cons.2 h

/-- The set with one more stream. -/
def insert (t : StreamSet) (s : StreamId) : StreamSet :=
  ⟨place s t.toList, pairwise_place t.ascending⟩

/-- The set without the stream. -/
def erase (t : StreamSet) (s : StreamId) : StreamSet :=
  ⟨t.toList.filter (· != s), t.ascending.filter _⟩

/-- The set of the streams in a list. -/
def ofList (xs : List StreamId) : StreamSet :=
  xs.foldl insert empty

/-- The empty set contains no stream. -/
@[simp] theorem contains_empty (s : StreamId) : empty.contains s = false := rfl

/-- A set with one more stream contains that stream and its own. -/
@[simp] theorem contains_insert (t : StreamSet) (s x : StreamId) :
    (t.insert s).contains x = (x == s || t.contains x) := by
  rw [Bool.eq_iff_iff]
  simp [contains, insert, mem_place]

/-- A set without a stream contains its other streams. -/
@[simp] theorem contains_erase (t : StreamSet) (s x : StreamId) :
    (t.erase s).contains x = (x != s && t.contains x) := by
  rw [Bool.eq_iff_iff]
  simp [contains, erase, and_comm]

end StreamSet

end FrameBridge
