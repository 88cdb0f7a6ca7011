import FrameBridge.Proofs.Pushes.Numbers
import Mathlib.Data.List.Infix

/-!
# Numbers that are sent in turn

How the numbers of promised streams that were sent stand to each other and to those that wait.
Numbers that a loop's own users ask for are sent in order, and so are the numbers from the queue.
A number from the queue may be sent after larger ones, which are not from the queue; it is never
the other way round, since what is asked for on the loop is sent before the loop looks at its queue
again.
-/

namespace FrameBridge

/-- Which number may be sent before which: a smaller one, and one that is not from the queue before
one that is, since the latter was waiting for its turn all the while. -/
def MayPrecede (applied : List Nat) (m n : Nat) : Prop := m < n ∨ m ∉ applied ∧ n ∈ applied

instance (applied : List Nat) (m n : Nat) : Decidable (MayPrecede applied m n) :=
  inferInstanceAs (Decidable (_ ∨ _))

/-- How the numbers that were sent, and those that will be before anything else, stand to those
that were `applied` from the queue so far and to those that still wait for that. -/
structure InTurn (applied sent waiting : List Nat) (next : Nat) : Prop where
  inOrder : sent.Pairwise (MayPrecede applied)
  inQueue : (applied ++ waiting).Pairwise (· < ·)
  lt_of_sent : ∀ n ∈ sent, n < next
  lt_of_queue : ∀ n ∈ applied ++ waiting, n < next
  apart : ∀ n ∈ sent, n ∉ waiting

namespace InTurn

variable {applied sent sent' waiting waiting' : List Nat} {n next next' : Nat}

theorem start (next : Nat) : InTurn [] [] [] next where
  inOrder := .nil
  inQueue := .nil
  lt_of_sent := nofun
  lt_of_queue := nofun
  apart := nofun

theorem skip (h : InTurn applied sent waiting next) (hnext : next ≤ next') :
    InTurn applied sent waiting next' where
  inOrder := h.inOrder
  inQueue := h.inQueue
  lt_of_sent n hn := (h.lt_of_sent n hn).trans_le hnext
  lt_of_queue n hn := (h.lt_of_queue n hn).trans_le hnext
  apart := h.apart

/-- Some numbers are not sent after all. -/
theorem sublist (h : InTurn applied sent waiting next) (hsent : sent'.Sublist sent) :
    InTurn applied sent' waiting next where
  inOrder := h.inOrder.sublist hsent
  inQueue := h.inQueue
  lt_of_sent n hn := h.lt_of_sent n (hsent.subset hn)
  lt_of_queue := h.lt_of_queue
  apart n hn := h.apart n (hsent.subset hn)

/-- Some numbers do not wait any more. -/
theorem forget (h : InTurn applied sent waiting next) (hwaiting : waiting'.Sublist waiting) :
    InTurn applied sent waiting' next where
  inOrder := h.inOrder
  inQueue := h.inQueue.sublist (hwaiting.append_left applied)
  lt_of_sent := h.lt_of_sent
  lt_of_queue n hn := h.lt_of_queue n ((hwaiting.append_left applied).subset hn)
  apart n hn hwaits := h.apart n hn (hwaiting.subset hwaits)

/-- The next number is larger than all others, so it may be sent after all that are. -/
theorem send (h : InTurn applied sent waiting next) :
    InTurn applied (sent ++ [next]) waiting (next + 2) where
  inOrder := by
    refine List.pairwise_append.mpr ⟨h.inOrder, List.pairwise_singleton _ _, ?_⟩
    intro m hm n hn
    rw [List.mem_singleton.mp hn]
    exact .inl (h.lt_of_sent m hm)
  inQueue := h.inQueue
  lt_of_sent n hn := by
    rcases List.mem_append.mp hn with hn | hn
    · exact (h.lt_of_sent n hn).trans (by omega)
    · rw [List.mem_singleton.mp hn]
      omega
  lt_of_queue n hn := (h.lt_of_queue n hn).trans (by omega)
  apart n hn hwaits := by
    rcases List.mem_append.mp hn with hn | hn
    · exact h.apart n hn hwaits
    · have hlt := h.lt_of_queue n (List.mem_append_right _ hwaits)
      rw [List.mem_singleton.mp hn] at hlt
      exact lt_irrefl _ hlt

theorem enqueue (h : InTurn applied sent waiting next) :
    InTurn applied sent (waiting ++ [next]) (next + 2) where
  inOrder := h.inOrder
  inQueue := by
    rw [← List.append_assoc]
    refine List.pairwise_append.mpr ⟨h.inQueue, List.pairwise_singleton _ _, ?_⟩
    intro m hm n hn
    rw [List.mem_singleton.mp hn]
    exact h.lt_of_queue m hm
  lt_of_sent n hn := (h.lt_of_sent n hn).trans (by omega)
  lt_of_queue n hn := by
    rw [← List.append_assoc] at hn
    rcases List.mem_append.mp hn with hn | hn
    · exact (h.lt_of_queue n hn).trans (by omega)
    · rw [List.mem_singleton.mp hn]
      omega
  apart n hn hwaits := by
    rcases List.mem_append.mp hwaits with hwaits | hwaits
    · exact h.apart n hn hwaits
    · have hlt := h.lt_of_sent n hn
      rw [List.mem_singleton.mp hwaits] at hlt
      exact lt_irrefl _ hlt

/-- The first number of the queue has its turn. -/
theorem apply (h : InTurn applied sent (n :: waiting) next) :
    InTurn (applied ++ [n]) (sent ++ [n]) waiting next := by
  have hsplit : (applied ++ [n]) ++ waiting = applied ++ n :: waiting := by simp
  have hqueue := h.inQueue
  rw [← hsplit] at hqueue
  have hbefore : ∀ m ∈ applied, m < n :=
    fun m hm => (List.pairwise_append.mp h.inQueue).2.2 m hm n List.mem_cons_self
  have hbehind : ∀ m ∈ waiting, n < m := fun m hm =>
    (List.pairwise_append.mp hqueue).2.2 n (by simp) m hm
  have hother : ∀ m ∈ sent, m ≠ n := fun m hm heq => h.apart m hm (heq ▸ List.mem_cons_self)
  refine ⟨?_, hqueue, ?_, ?_, ?_⟩
  · refine List.pairwise_append.mpr ⟨?_, List.pairwise_singleton _ _, ?_⟩
    · refine h.inOrder.imp_of_mem ?_
      intro m m' hm hm' hprecede
      rcases hprecede with hlt | ⟨hnot, happlied⟩
      · exact .inl hlt
      · exact .inr ⟨by simp [hnot, hother m hm], List.mem_append_left _ happlied⟩
    · intro m hm m' hm'
      rw [List.mem_singleton.mp hm']
      by_cases happlied : m ∈ applied
      · exact .inl (hbefore m happlied)
      · exact .inr ⟨by simp [happlied, hother m hm], by simp⟩
  · intro m hm
    rcases List.mem_append.mp hm with hm | hm
    · exact h.lt_of_sent m hm
    · rw [List.mem_singleton.mp hm]
      exact h.lt_of_queue n (by simp)
  · rw [hsplit]
    exact h.lt_of_queue
  · intro m hm hwaits
    rcases List.mem_append.mp hm with hm | hm
    · exact h.apart m hm (List.mem_cons_of_mem n hwaits)
    · have hlt := hbehind m hwaits
      rw [List.mem_singleton.mp hm] at hlt
      exact lt_irrefl _ hlt

variable {l m : Ledger}

/-- Whatever is dealt while the numbers that wait on the loop will be sent. -/
theorem deals (h : InTurn applied (sent ++ l.own) (waiting ++ l.queued) l.next) (hm : l.Deals m) :
    InTurn applied (sent ++ m.own) (waiting ++ m.queued) m.next := by
  cases hm with
  | nothing => exact h
  | lost => exact h.skip (Nat.le_add_right _ 2)
  | own =>
      have hsend := h.send
      rw [List.append_assoc] at hsend
      exact hsend
  | queued =>
      have henqueue := h.enqueue
      rw [List.append_assoc] at henqueue
      exact henqueue

/-- Whatever is dealt while the numbers that wait on the loop will not be sent. -/
theorem deals_in_vain (h : InTurn applied sent (waiting ++ l.queued) l.next) (hm : l.Deals m) :
    InTurn applied sent (waiting ++ m.queued) m.next := by
  cases hm with
  | nothing => exact h
  | lost => exact h.skip (Nat.le_add_right _ 2)
  | own => exact h.skip (Nat.le_add_right _ 2)
  | queued =>
      have henqueue := h.enqueue
      rw [List.append_assoc] at henqueue
      exact henqueue

end InTurn

end FrameBridge
