import FrameBridge.Proofs.Traffic.Quiet

/-!
# Handles of a loop that is gone

Once the queue of a loop is gone its handles say so when they are asked.  Whoever asks for a write
through one of them is told that the write failed, wherever the code runs that asks.
-/

namespace FrameBridge

/-- How a write through a handle ends that does not get to its bridge. -/
def HandleStep.loss? : HandleStep → Option Resolution
  | .command c => some c.promise.abandoned
  | .refused r => some r
  | .answered => none

namespace Hub

/-- The handles of a loop speak of a loop that is gone.

* `answer`: they say so when they are asked.
* `loss`: whoever watches a write through one of them is told that it failed. -/
structure IsGone (h : Hub) (loop : LoopId) : Prop where
  answer : ∀ offLoop now,
    h.use loop offLoop now .isClosed = h.record loop (.answered (.isClosed true))
  loss : ∀ offLoop now a r, (h.commandOf loop now a).1.loss? = some r →
    Failed r ∧ r.IsKnown (h.use loop offLoop now a)

variable {h : Hub} {loop : LoopId}

/-- Code that does not run on a loop itself finds the loop gone once its queue is. -/
theorem IsGone.of_shut (hshut : h.isOpen loop = false)
    (hforeign : ∀ s, h.scope = some s → s.loop ≠ loop) : h.IsGone loop where
  answer offLoop now := by
    simp only [use, useOnce, commandOf, following, hshut, Bool.not_false]
  loss offLoop now a r hr := by
    have hquiet : h.Quiet (h.commandOf loop now a).2 := .commandOf h loop now a
    have hfailed {r' : Resolution} (huse : (h.useOnce loop offLoop now a).2 = some r') :
        Failed r' := failed_of_mem_useOnce huse
    unfold use
    unfold useOnce at hfailed ⊢
    generalize h.commandOf loop now a = step at hquiet hr hfailed
    obtain ⟨c | r' | _, h'⟩ := step
    · -- Neither the loop itself nor its queue takes the command, which is dropped.
      cases hr
      have hplace : h'.place loop offLoop = .nowhere := by
        refine Place.of_eq_nowhere.mpr ⟨fun horigin => ?_, (hquiet.isOpen loop).trans hshut⟩
        unfold origin at horigin
        split at horigin
        · cases horigin
        · obtain ⟨s, hs, hloop⟩ := Option.map_eq_some_iff.mp horigin
          exact hforeign s (hquiet.scope.symm.trans hs) hloop
      have hsend := (send_nowhere hplace c).2
      unfold send at hsend
      refine ⟨⟨_, rfl⟩, ?_⟩
      show c.promise.abandoned.IsKnown (following resolve (h'.dispatch loop offLoop c))
      rw [hsend]
      exact h'.isKnown_resolve c.promise.abandoned
    · cases hr
      exact ⟨hfailed rfl, h'.isKnown_resolve _⟩
    · cases hr

end Hub

end FrameBridge
