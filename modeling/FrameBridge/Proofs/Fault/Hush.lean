import FrameBridge.Bridge.Entries
import FrameBridge.Proofs.Issue.Sight

/-!
# While a fault waits

Once a write has left a fault, the codec hears of nothing that application code still asks for:
the writes of a writer are refused, and so are the commands that wait inline when one of them is
made.  A command that is queued after the last of these is not refused.  It still waits when the
callback returns.
-/

namespace FrameBridge

namespace Outlet

variable {κ : Type}

/-- These faults wait at the outlet of a loop, and the codec was called for this much. -/
def IsHushed (loop : LoopId) (faults : List BridgeError) (calls : List CodecCall)
    (o : Outlet κ) : Prop :=
  (o.home = loop ∧ o.channel.faults = faults) ∧ o.hub.codecCalls loop = calls

variable [Codec κ]

/-- The codec is not called while faults wait. -/
theorem rule_isHushed (loop : LoopId) {faults : List BridgeError} (hfaults : faults ≠ [])
    (calls : List CodecCall) :
    Rule (fun _ => True) (Regardless (IsHushed loop faults calls : Outlet κ → Prop)) := by
  have hub (o : Outlet κ) : Hub.Law (fun _ => True) fun ps h =>
      Regardless (IsHushed loop faults calls) ps { o with hub := h } :=
    (Hub.law_of_constant (o.home = loop ∧ o.channel.faults = faults)).and
      (Hub.law_codecCalls loop calls)
  have hfault {o : Outlet κ} (h : IsHushed loop faults calls o) : o.channel.hasFault = true := by
    simp [Channel.hasFault, h.1.2, hfaults]
  exact
    { hub
      good_of_waiting := fun _ _ _ => trivial
      take := fun {ps o} h => by
        obtain ⟨s, hs⟩ := o.hub.takeInline_eq
        rw [hs]
        exact h
      perform := fun {c ps o} _ h => by
        rw [perform, if_pos (hfault h)]
        exact (hub o).abandon h
      giveBack := fun s n {ps o} h => by
        rw [giveBack, if_pos (hfault h)]
        exact h
      close := fun {ps o} h => by
        unfold close
        split
        · exact h
        · exact h }

end Outlet

namespace Turn

variable {κ σ δ : Type} [Codec κ]

/-- While a fault waits, the codec hears of nothing that application code asks for, and the fault
goes on waiting. -/
theorem isHushed_program {t : Turn κ σ δ} (hfault : t.bridge.channel.hasFault = true)
    (hasWriter : Bool) (now : StreamId) (actions : List Action) :
    (t.program hasWriter now actions).state.outlet.IsHushed t.bridge.id t.bridge.channel.faults
      (t.hub.codecCalls t.bridge.id) := by
  have hfaults : t.bridge.channel.faults ≠ [] := by simpa [Channel.hasFault] using hfault
  exact (Outlet.rule_isHushed t.bridge.id hfaults (t.hub.codecCalls t.bridge.id)).program
    hasWriter now actions (o := t.outlet) (.of [] ⟨⟨rfl, rfl⟩, rfl⟩)

end Turn

end FrameBridge
