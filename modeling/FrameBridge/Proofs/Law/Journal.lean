import FrameBridge.Proofs.Law.Hub
import Mathlib.Data.List.Infix

/-!
# Reading the journal

The journal holds its newest entry first.  What a channel accepted, and what was flushed of it,
can be read off the journal, up to now or up to the end of the bridge.  Both only grow.
-/

namespace FrameBridge

/-- The frame that an entry of the journal reports to have been accepted. -/
def Entry.accepted? : Entry → Option Outbound
  | .accepted f => some f
  | _ => none

/-- The call to a codec that an entry of the journal reports. -/
def Entry.called? : Entry → Option CodecCall
  | .codec call => some call
  | _ => none

/-- Whether an entry reports a flush. -/
def Entry.isFlush : Entry → Bool
  | .flushed => true
  | _ => false

/-- Whether an entry reports that a codec was told of the end of its transport. -/
def Entry.isEnd : Entry → Bool
  | .codec .inactive => true
  | _ => false

section Echoes

variable {e : Entry} (h : e.isEcho)
include h

theorem Entry.accepted?_of_isEcho : e.accepted? = none := by
  cases e <;> first | rfl | cases h

theorem Entry.called?_of_isEcho : e.called? = none := by
  cases e <;> first | rfl | cases h

theorem Entry.isEnd_of_isEcho : e.isEnd = false := by
  cases e <;> first | rfl | cases h

end Echoes

/-- What the entries at a loop report of one kind, oldest first. -/
def reported {α : Type} (read : Entry → Option α) (journal : List Record) (loop : LoopId) :
    List α :=
  journal.reverse.filterMap fun r => if r.loop = loop then read r.entry else none

/-- The frames that the channel of a loop accepted, oldest first. -/
def acceptedFrames (journal : List Record) (loop : LoopId) : List Outbound :=
  reported Entry.accepted? journal loop

/-- The frames that the channel of a loop accepted and flushed since, oldest first. -/
def flushedFrames : List Record → LoopId → List Outbound
  | [], _ => []
  | r :: journal, loop =>
      if r.loop = loop ∧ r.entry.isFlush = true then acceptedFrames journal loop
      else flushedFrames journal loop

/-- The journal does not report the end of a loop's bridge. -/
def HasNoEnd (journal : List Record) (loop : LoopId) : Prop :=
  ∀ r ∈ journal, ¬ (r.loop = loop ∧ r.entry.isEnd = true)

instance (journal : List Record) (loop : LoopId) : Decidable (HasNoEnd journal loop) :=
  inferInstanceAs (Decidable (∀ r ∈ journal, _))

/-- What was entered into the journal before the end of a loop's bridge. -/
def beforeEnd (journal : List Record) (loop : LoopId) : List Record :=
  (journal.reverse.takeWhile fun r => ¬ (r.loop = loop ∧ r.entry.isEnd = true)).reverse

/-! ### What is accepted and flushed -/

theorem reported_cons {α : Type} (read : Entry → Option α) (r : Record) (journal : List Record)
    (loop : LoopId) :
    reported read (r :: journal) loop = reported read journal loop ++
      (if r.loop = loop then read r.entry else none).toList := by
  unfold reported
  rw [List.reverse_cons, List.filterMap_append]
  congr 1

theorem reported_suffix {α : Type} (read : Entry → Option α) {journal more : List Record}
    (h : journal <:+ more) (loop : LoopId) :
    reported read journal loop <+: reported read more loop := by
  obtain ⟨newer, rfl⟩ := h
  unfold reported
  rw [List.reverse_append, List.filterMap_append]
  exact List.prefix_append _ _

theorem reported_cons_of_none {α : Type} (read : Entry → Option α) {r : Record}
    (h : read r.entry = none) (journal : List Record) (loop : LoopId) :
    reported read (r :: journal) loop = reported read journal loop := by
  rw [reported_cons, h, ite_self, Option.toList_none, List.append_nil]

/-- Entries that report nothing at a loop add nothing there. -/
theorem reported_append_of_none {α : Type} (read : Entry → Option α) {newer journal : List Record}
    {loop : LoopId} (h : ∀ r ∈ newer, r.loop = loop → read r.entry = none) :
    reported read (newer ++ journal) loop = reported read journal loop := by
  induction newer with
  | nil => rfl
  | cons r newer ih =>
      have hrest : ∀ r ∈ newer, r.loop = loop → read r.entry = none :=
        fun r' hr' => h r' (List.mem_cons_of_mem r hr')
      rw [List.cons_append, reported_cons, ih hrest]
      split
      · rw [h r List.mem_cons_self ‹_›, Option.toList_none, List.append_nil]
      · rw [Option.toList_none, List.append_nil]

theorem flushedFrames_cons_of_not {r : Record} (h : r.entry.isFlush = false)
    (journal : List Record) (loop : LoopId) :
    flushedFrames (r :: journal) loop = flushedFrames journal loop := by
  simp [flushedFrames, h]

theorem flushedFrames_prefix_accepted (journal : List Record) (loop : LoopId) :
    flushedFrames journal loop <+: acceptedFrames journal loop := by
  induction journal with
  | nil => exact List.prefix_rfl
  | cons r journal ih =>
      have hmore := reported_suffix Entry.accepted? (List.suffix_cons r journal) loop
      unfold flushedFrames
      split
      · exact hmore
      · exact ih.trans hmore

theorem flushedFrames_prefix_cons (r : Record) (journal : List Record) (loop : LoopId) :
    flushedFrames journal loop <+: flushedFrames (r :: journal) loop := by
  rw [flushedFrames]
  split
  · exact flushedFrames_prefix_accepted journal loop
  · exact List.prefix_rfl

/-- What was flushed once stays flushed. -/
theorem flushedFrames_suffix {journal more : List Record} (h : journal <:+ more) (loop : LoopId) :
    flushedFrames journal loop <+: flushedFrames more loop := by
  obtain ⟨newer, rfl⟩ := h
  induction newer with
  | nil => exact List.prefix_rfl
  | cons r newer ih => exact ih.trans (flushedFrames_prefix_cons r _ loop)

/-! ### The end -/

theorem HasNoEnd.cons {journal : List Record} {loop : LoopId} (h : HasNoEnd journal loop)
    {r : Record} (hr : r.entry.isEnd = false) : HasNoEnd (r :: journal) loop := by
  intro r' hr'
  rcases List.mem_cons.mp hr' with rfl | hold
  · rw [hr]
    exact fun hend => Bool.false_ne_true hend.2
  · exact h r' hold

theorem beforeEnd_suffix (journal : List Record) (loop : LoopId) :
    beforeEnd journal loop <:+ journal := by
  have hprefix := List.takeWhile_prefix (l := journal.reverse)
    fun r => decide ¬ (r.loop = loop ∧ r.entry.isEnd = true)
  have hsuffix := List.reverse_suffix.mpr hprefix
  rw [List.reverse_reverse] at hsuffix
  exact hsuffix

/-- What was entered while the bridge had not ended was entered before its end. -/
theorem suffix_beforeEnd {journal more : List Record} {loop : LoopId}
    (hnone : HasNoEnd journal loop) (h : journal <:+ more) : journal <:+ beforeEnd more loop := by
  obtain ⟨newer, rfl⟩ := h
  unfold beforeEnd
  rw [List.reverse_append, List.takeWhile_append_of_pos, List.reverse_append, List.reverse_reverse]
  · exact List.suffix_append _ _
  · intro r hr
    exact decide_eq_true (hnone r (List.mem_reverse.mp hr))

theorem beforeEnd_of_suffix {journal more : List Record} {r : Record} {loop : LoopId}
    (hnone : HasNoEnd journal loop) (hr : r.loop = loop ∧ r.entry.isEnd = true)
    (h : r :: journal <:+ more) : beforeEnd more loop = journal := by
  obtain ⟨newer, rfl⟩ := h
  unfold beforeEnd
  rw [List.reverse_append, List.reverse_cons, List.append_assoc, List.takeWhile_append_of_pos]
  · rw [List.singleton_append, List.takeWhile_cons_of_neg, List.append_nil, List.reverse_reverse]
    simp [hr]
  · intro r' hr'
    exact decide_eq_true (hnone r' (List.mem_reverse.mp hr'))

end FrameBridge
