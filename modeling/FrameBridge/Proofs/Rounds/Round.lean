import FrameBridge.Proofs.Entry.Settled
import FrameBridge.Proofs.Law.Recorder
import FrameBridge.Proofs.Counters.Speech

/-!
# Rounds of settling

Settling goes round by round, and each round handles one fault, performs the commands that wait, or
delivers one notification.  How many rounds are allowed makes no difference once there are enough.

* `Turn.round` is one round, and `Turn.settle_succ` says that settling is one round after the other.
* `Turn.stop_route_ne` says that nothing but settling itself is ever given up.
* `Run.Ends` says of a run that depends on the number of rounds that it is always the same one if
  there are enough of them, and what is known then of the state that it reaches.
-/

namespace FrameBridge

namespace Run

variable {α β : Type} {P Q : α → Prop}

/-- A run that is followed by others stops for a reason only if one of them does. -/
theorem stop_andThen_ne {r : Run α} {f : α → Run α} {why : Stop} (hr : r.stop ≠ some why)
    (hf : ∀ a, (f a).stop ≠ some why) : (r.andThen f).stop ≠ some why :=
  cases_andThen (P := fun r => r.stop ≠ some why) (fun _ => hr) fun _ => hf r.state

theorem stop_done_ne (a : α) (why : Stop) : (done a).stop ≠ some why :=
  (Option.some_ne_none why).symm

/-- With enough rounds a run is always the same, it is not given up, and it reaches a state with
`P`. -/
def Ends (P : α → Prop) (f : Nat → Run α) : Prop :=
  ∃ enough r, r.stop ≠ some .unsettled ∧ P r.state ∧ ∀ rounds, enough ≤ rounds → f rounds = r

namespace Ends

/-- A run that does not depend on the rounds. -/
theorem const {r : Run α} (hstop : r.stop ≠ some .unsettled) (hP : P r.state) :
    Ends P fun _ => r :=
  ⟨0, r, hstop, hP, fun _ _ => rfl⟩

theorem map {g : α → β} {Q : β → Prop} {f : Nat → Run α} (h : Ends P f)
    (hPQ : ∀ a, P a → Q (g a)) : Ends Q fun rounds => (f rounds).map g := by
  obtain ⟨enough, r, hstop, hP, hf⟩ := h
  exact ⟨enough, r.map g, hstop, hPQ _ hP, fun rounds h => congrArg (·.map g) (hf rounds h)⟩

theorem andThen {f : Nat → Run α} {g : Nat → α → Run α} (h : Ends P f)
    (hg : ∀ a, P a → Ends P (g · a)) : Ends P fun rounds => (f rounds).andThen (g rounds) := by
  obtain ⟨enough, r, hstop, hP, hf⟩ := h
  by_cases hend : r.stop = none
  · obtain ⟨enough', r', hstop', hP', hg'⟩ := hg r.state hP
    refine ⟨max enough enough', r', hstop', hP', fun rounds h => ?_⟩
    have hfirst : enough ≤ rounds := Nat.le_trans (Nat.le_max_left ..) h
    have hthen : enough' ≤ rounds := Nat.le_trans (Nat.le_max_right ..) h
    show (f rounds).andThen (g rounds) = r'
    rw [hf rounds hfirst, andThen_of_done hend]
    exact hg' rounds hthen
  · refine ⟨enough, r, hstop, hP, fun rounds h => ?_⟩
    show (f rounds).andThen (g rounds) = r
    rw [hf rounds h, andThen_of_stopped hend]

theorem each {f : Nat → α → β → Run α} (hf : ∀ a b, P a → Ends P (f · a b)) (bs : List β) {a : α}
    (ha : P a) : Ends P fun rounds => Run.each (f rounds) bs a := by
  induction bs generalizing a with
  | nil => exact const (stop_done_ne a _) ha
  | cons b bs ih => exact (hf a b ha).andThen fun a ha => ih ha

end Ends

end Run

namespace Turn

variable {κ σ δ : Type} [Codec κ] [Connection σ]

/-! ### What is never given up -/

theorem stop_tell_ne (c : Callback) (t : Turn κ σ δ) : (t.tell c).stop ≠ some .unsettled :=
  (says_tell (p := fun _ => True) trivial t).stop

theorem stop_onError_ne (e : ProtocolError) (t : Turn κ σ δ) :
    (t.onError e).stop ≠ some .unsettled :=
  Run.stop_andThen_ne (says_announce e t).stop fun _ => Run.stop_done_ne _ _

theorem stop_onException_ne (e : BridgeError) (t : Turn κ σ δ) :
    (t.onException e).stop ≠ some .unsettled := by
  unfold onException
  split
  · exact Run.stop_done_ne _ _
  · exact Run.stop_andThen_ne (stop_onError_ne _ _) fun _ => Run.stop_done_ne _ _

theorem stop_onEarlyFrame_ne (f : Frame) (t : Turn κ σ δ) :
    (t.onEarlyFrame f).stop ≠ some .unsettled := by
  unfold onEarlyFrame
  split
  · exact (says_establish (p := fun _ => True) (fun _ _ => trivial) _ _ t).stop
  · exact stop_onException_ne _ t
  · split
    · exact stop_onException_ne _ t
    · exact stop_onException_ne _ t

theorem stop_tellOr_ne (c : Callback) (n : Notice) (t : Turn κ σ δ) :
    (t.tellOr c n).stop ≠ some .unsettled := by
  unfold tellOr
  split
  · exact stop_tell_ne c t
  · exact Run.stop_done_ne _ _

theorem stop_onStreamChange_ne (change : StreamChange) (s : StreamId) (t : Turn κ σ δ) :
    (t.onStreamChange change s).stop ≠ some .unsettled := by
  unfold onStreamChange
  split
  · exact stop_tell_ne _ _
  all_goals exact Run.stop_done_ne _ _

theorem stop_tearDown_ne (t : Turn κ σ δ) : t.tearDown.stop ≠ some .unsettled :=
  Run.stop_andThen_ne (says_sayGoodbye t.shut).stop fun _ => Run.stop_done_ne _ _

variable [Decoder δ]

theorem stop_onFrame_ne (f : Frame) (t : Turn κ σ δ) : (t.onFrame f).stop ≠ some .unsettled := by
  unfold onFrame
  split
  · exact stop_onEarlyFrame_ne f t
  · split
    · exact stop_tell_ne _ t
    · refine Run.stop_andThen_ne (Run.stop_each_ne (fun t f => stop_tell_ne (.frame f) t) _ _) ?_
      intro t
      split
      · exact Run.stop_done_ne _ _
      · exact stop_onError_ne _ _

/-- The delivery of an event is not given up, whatever comes of it. -/
theorem stop_route_ne (e : Event) (t : Turn κ σ δ) : (t.route e).stop ≠ some .unsettled := by
  unfold route
  split
  · exact Run.stop_done_ne _ _
  · cases e with
    | frame f => exact stop_onFrame_ne f _
    | stream change s => exact stop_onStreamChange_ne change s _
    | goAway g => exact stop_tellOr_ne _ _ _
    | writabilityChanged s => exact stop_tellOr_ne _ _ _
    | error e => exact stop_onError_ne e _

/-! ### Rounds -/

/-- One round of settling, if there is something to settle. -/
def round (t : Turn κ σ δ) : Option (Run (Turn κ σ δ)) :=
  match t.bridge.channel.faults with
  | fault :: faults => some ((t.onChannel ({ · with faults })).onException fault)
  | [] =>
      if t.hub.scope.any (!·.inline.isEmpty) then some (.done t.catchUp)
      else
        match t.bridge.channel.notifications with
        | e :: notifications => some ((t.onChannel ({ · with notifications })).route e)
        | [] => none

/-- What a round does. -/
inductive Round (t : Turn κ σ δ) : Run (Turn κ σ δ) → Prop where
  | fault {fault : BridgeError} {faults : List BridgeError}
      (hfaults : t.bridge.channel.faults = fault :: faults) :
      Round t ((t.onChannel ({ · with faults })).onException fault)
  | inline {loop : LoopId} {c : Command} {waiting : List Command}
      (hscope : t.hub.scope = some ⟨loop, c :: waiting⟩) : Round t (.done t.catchUp)
  | notification {e : Event} {notifications : List Event}
      (hnotifications : t.bridge.channel.notifications = e :: notifications) :
      Round t ((t.onChannel ({ · with notifications })).route e)

variable {t : Turn κ σ δ} {r : Run (Turn κ σ δ)}

theorem round_cases (h : t.round = some r) : Round t r := by
  unfold round at h
  split at h
  · rename_i fault faults hfaults
    cases h
    exact .fault hfaults
  · split at h
    · rename_i hwaits
      cases h
      cases hscope : t.hub.scope with
      | none => simp [hscope] at hwaits
      | some s =>
          obtain ⟨loop, _ | ⟨c, waiting⟩⟩ := s
          · simp [hscope] at hwaits
          · exact .inline hscope
    · split at h
      · rename_i e notifications hnotifications
        cases h
        exact .notification hnotifications
      · cases h

/-- Settling is one round after the other until nothing is left to settle. -/
theorem settle_succ (rounds : Nat) (t : Turn κ σ δ) :
    t.settle (rounds + 1) = t.round.elim (.done t) (·.andThen (settle rounds)) := by
  cases hfaults : t.bridge.channel.faults with
  | cons fault faults => simp only [settle, round, hfaults, Option.elim]
  | nil =>
      by_cases hwaits : t.hub.scope.any (!·.inline.isEmpty)
      · simp only [settle, round, hfaults, if_pos hwaits, Option.elim, Run.andThen_done]
      · cases hnotifications : t.bridge.channel.notifications with
        | cons e notifications =>
            simp only [settle, round, hfaults, if_neg hwaits, hnotifications, Option.elim]
        | nil => simp only [settle, round, hfaults, if_neg hwaits, hnotifications, Option.elim]

theorem isSettled_of_round (h : t.round = none) : t.isSettled = true := by
  have hdone : t.settle 1 = .done t := by rw [settle_succ, h, Option.elim]
  have hsettled := isSettled_settle (t := t) 1 (by rw [hdone]; rfl)
  rw [hdone] at hsettled
  exact hsettled

theorem Round.chain (h : Round t r) : Chain t r := by
  cases h with
  | fault hfaults => exact .cons (.takeFault hfaults) rfl (.last (.onException _))
  | inline => exact .last .catchUp
  | notification hnotifications =>
      exact .cons (.takeNotification hnotifications) rfl (.last (.route _))

theorem Round.stop_ne (h : Round t r) : r.stop ≠ some .unsettled := by
  cases h with
  | fault => exact stop_onException_ne _ _
  | inline => exact Run.stop_done_ne _ _
  | notification => exact stop_route_ne _ _

end Turn

end FrameBridge
