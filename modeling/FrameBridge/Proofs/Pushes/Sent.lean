import FrameBridge.Proofs.Law.Hub
import FrameBridge.Proofs.Law.Journal

/-!
# Push promises that were sent

Which promised streams a codec was asked to announce, and which of these announcements the channel
took in, as the journal tells it.  A codec is still asked when the channel does not take anything
any more, so the announcements that count are the first ones, up to the moment when the channel
went away.
-/

namespace FrameBridge

/-- The number of the promised stream that a codec is asked to announce. -/
def Entry.promised? : Entry → Option Nat
  | .codec (.encode (.pushPromise _ id _ _)) => some id.val
  | _ => none

theorem Entry.promised?_of_isEcho {e : Entry} (h : e.isEcho) : e.promised? = none := by
  cases e <;> first | rfl | cases h

/-- The numbers of the promised streams that the codec of a loop was asked to announce, oldest
first. -/
def promisesEncoded (journal : List Record) (loop : LoopId) : List Nat :=
  reported Entry.promised? journal loop

/-- The number of the promised stream that the newest entry announces. -/
def promiseLast (journal : List Record) (loop : LoopId) : Option Nat :=
  journal.head?.bind fun r => if r.loop = loop then r.entry.promised? else none

/-- The numbers of the promised streams whose announcement the channel of a loop took in when the
codec was asked for it, oldest first. -/
def promisesTaken : List Record → LoopId → List Nat
  | [], _ => []
  | r :: journal, loop =>
      promisesTaken journal loop ++
        (if r.loop = loop ∧ r.entry.accepted?.isSome then promiseLast journal loop
          else none).toList

theorem promisesEncoded_cons (r : Record) (journal : List Record) (loop : LoopId) :
    promisesEncoded (r :: journal) loop =
      promisesEncoded journal loop ++ (promiseLast (r :: journal) loop).toList :=
  reported_cons Entry.promised? r journal loop

theorem promisesTaken_cons_of_not {r : Record} (h : r.entry.accepted? = none)
    (journal : List Record) (loop : LoopId) :
    promisesTaken (r :: journal) loop = promisesTaken journal loop := by
  simp [promisesTaken, h]

/-- What was taken in was asked for, and in this order; a promise that was asked for last is still
to be taken in. -/
theorem promisesTaken_append_sublist (journal : List Record) (loop : LoopId) :
    (promisesTaken journal loop ++ (promiseLast journal loop).toList).Sublist
      (promisesEncoded journal loop) := by
  induction journal with
  | nil => exact List.nil_sublist _
  | cons r journal ih =>
      rw [promisesEncoded_cons]
      refine List.Sublist.append_right ?_ _
      rw [promisesTaken]
      split
      · exact ih
      · rw [Option.toList_none, List.append_nil]
        exact (List.sublist_append_left _ _).trans ih

theorem promisesTaken_sublist (journal : List Record) (loop : LoopId) :
    (promisesTaken journal loop).Sublist (promisesEncoded journal loop) :=
  (List.sublist_append_left _ _).trans (promisesTaken_append_sublist journal loop)

/-- These promised streams were announced to the codec of a loop while its channel took writes;
`active` says whether it still does. -/
structure Sent (sent : List Nat) (active : Bool) (journal : List Record) (loop : LoopId) :
    Prop where
  first : sent <+: promisesEncoded journal loop
  taken : (promisesTaken journal loop).Sublist sent
  all : active = true → sent = promisesEncoded journal loop

namespace Sent

variable {sent : List Nat} {active : Bool} {journal : List Record} {loop : LoopId}

theorem start (active : Bool) (loop : LoopId) : Sent [] active [] loop where
  first := List.prefix_rfl
  taken := List.nil_sublist _
  all _ := rfl

/-- All that was asked for so far was sent. -/
theorem of_all (active : Bool) (journal : List Record) (loop : LoopId) :
    Sent (promisesEncoded journal loop) active journal loop where
  first := List.prefix_rfl
  taken := promisesTaken_sublist journal loop
  all _ := rfl

/-- The channel does not take anything any more, or still does. -/
theorem mono (h : Sent sent active journal loop) {active' : Bool}
    (hactive : active' = true → active = true) : Sent sent active' journal loop where
  first := h.first
  taken := h.taken
  all hactive' := h.all (hactive hactive')

/-- An entry about neither an announcement nor a frame. -/
theorem aside (h : Sent sent active journal loop) {r : Record}
    (hpromised : r.entry.promised? = none) (haccepted : r.entry.accepted? = none) :
    Sent sent active (r :: journal) loop := by
  have hencoded : promisesEncoded (r :: journal) loop = promisesEncoded journal loop :=
    reported_cons_of_none Entry.promised? hpromised journal loop
  refine ⟨?_, ?_, ?_⟩
  · rw [hencoded]
    exact h.first
  · rw [promisesTaken_cons_of_not haccepted]
    exact h.taken
  · rw [hencoded]
    exact h.all

/-- A channel that takes writes takes in a frame. -/
theorem accepted (h : Sent sent active journal loop) (hactive : active = true) (f : Outbound) :
    Sent sent active (⟨loop, .accepted f⟩ :: journal) loop := by
  have hencoded : promisesEncoded (⟨loop, .accepted f⟩ :: journal) loop =
      promisesEncoded journal loop :=
    reported_cons_of_none Entry.promised? rfl journal loop
  have hall := h.all hactive
  rw [← hencoded] at hall
  rw [hall]
  exact of_all active _ loop

/-- The codec is asked to announce a promised stream. -/
theorem promise (h : Sent sent active journal loop) {e : Entry} {n : Nat}
    (he : e.promised? = some n) :
    Sent (if active then sent ++ [n] else sent) active (⟨loop, e⟩ :: journal) loop := by
  have hencoded : promisesEncoded (⟨loop, e⟩ :: journal) loop =
      promisesEncoded journal loop ++ [n] := by
    simp [promisesEncoded_cons, promiseLast, he]
  cases active with
  | true =>
      rw [if_pos rfl, h.all rfl, ← hencoded]
      exact of_all true _ loop
  | false =>
      have haccepted : e.accepted? = none := by
        cases e <;> first | rfl | cases he
      refine ⟨?_, ?_, nofun⟩
      · rw [hencoded]
        exact h.first.trans (List.prefix_append _ _)
      · rw [promisesTaken_cons_of_not haccepted]
        exact h.taken

/-- Handles and callbacks leave the announcements alone. -/
theorem law (sent : List Nat) (active : Bool) (loop : LoopId) :
    Hub.Law (fun _ => True) (Regardless fun h => Sent sent active h.journal loop) := by
  exact Hub.law_journal (p := fun j => Sent sent active j loop) fun _ _ hr h =>
    h.aside (Entry.promised?_of_isEcho hr) (Entry.accepted?_of_isEcho hr)

end Sent

end FrameBridge
