import FrameBridge.Proofs.Law.Deed

/-!
# After the channel was closed

A channel that is about to close, or that is shut, accepts no frame, and nothing that may happen to
its bridge makes it accept frames again.  So what it accepted by then is all that it ever accepts.
-/

namespace FrameBridge

namespace Hub

/-- No use of a handle and no callback makes a channel accept a frame. -/
theorem law_acceptedFrames (loop : LoopId) (sent : List Outbound) :
    Law (fun _ => True) (Regardless fun h => acceptedFrames h.journal loop = sent) :=
  law_journal (p := fun j => acceptedFrames j loop = sent) fun _ j hr hj =>
    (reported_cons_of_none Entry.accepted? (Entry.accepted?_of_isEcho hr) j loop).trans hj

theorem Aside.acceptedFrames_eq {home : LoopId} {h h' : Hub} (ha : Aside home h h')
    (loop : LoopId) :
    acceptedFrames h'.journal loop = acceptedFrames h.journal loop := by
  rcases ha.journal with hsame | ⟨r, hr, hmore⟩
  · rw [hsame]
  · rw [hmore]
    exact reported_cons_of_none _ (Entry.accepted?_of_isAside hr) _ _

end Hub

namespace Outlet

variable {κ : Type}

/-- The channel of a loop accepted these frames, and accepts none now. -/
def IsSilent (loop : LoopId) (sent : List Outbound) (o : Outlet κ) : Prop :=
  o.home = loop ∧ o.channel.isActive = false ∧ acceptedFrames o.hub.journal loop = sent

/-- Whatever is done to a channel that accepts no frames, it goes on like this. -/
theorem steady_isSilent (loop : LoopId) (sent : List Outbound) :
    Steady (IsSilent loop sent : Outlet κ → Prop) where
  hub o := (Hub.law_of_constant (o.home = loop)).and
    ((Hub.law_of_constant (o.channel.isActive = false)).and (Hub.law_acceptedFrames loop sent))
  aside ha hp := ⟨hp.1, hp.2.1, (ha.acceptedFrames_eq loop).trans hp.2.2⟩
  codec _ _ hp := hp
  buffer _ _ hactive hp := by
    cases hactive.symm.trans hp.2.1
  flush {o} hp :=
    ⟨hp.1, hp.2.1, (reported_cons_of_none Entry.accepted? rfl o.hub.journal loop).trans hp.2.2⟩
  requestClose {o} hp := ⟨hp.1, o.channel.isActive_requestClose, hp.2.2⟩
  leaveWord _ _ _ hp := hp
  markInactive {o} hp := ⟨hp.1, o.channel.isActive_markInactive, hp.2.2⟩
  take {o} hp := by
    obtain ⟨s, hs⟩ := o.hub.takeInline_eq
    rw [hs]
    exact hp

end Outlet

namespace Turn

variable {κ σ δ : Type} [Codec κ] [Connection σ] [Decoder δ] {t t' : Turn κ σ δ} {loop : LoopId}
  {sent : List Outbound}

theorem Step.isSilent (h : Step t t') (ht : t.outlet.IsSilent loop sent) :
    t'.outlet.IsSilent loop sent := by
  cases h with
  | enter =>
      obtain ⟨s, hs⟩ := t.hub.enter_eq t.bridge.id
      rw [entered, hs]
      exact ht
  | deed hdeed => exact (Outlet.steady_isSilent loop sent).deed hdeed ht
  | leave left before =>
      -- Commands that are dropped when a loop is left reach no channel.
      exact ((Outlet.steady_isSilent loop sent).hub t.outlet).leave (fun _ _ h => h) left before ht
  | between hb =>
      obtain ⟨hhome, hclosed, hsent⟩ := ht
      cases hb with
      | @elsewhere hub newer hjournal hnewer =>
          have hnone : ∀ r ∈ newer, r.loop = loop → r.entry.accepted? = none := hhome ▸ hnewer
          have hsame : acceptedFrames hub.journal loop = acceptedFrames t.hub.journal loop := by
            rw [hjournal]
            exact reported_append_of_none Entry.accepted? hnone
          exact ⟨hhome, hclosed, hsame.trans hsent⟩
      | take => exact ⟨hhome, hclosed, hsent⟩
      | recode codec => exact ⟨hhome, hclosed, hsent⟩

/-- Once a channel accepts no frames it never accepts one again, whatever happens to the bridge. -/
theorem Course.isSilent (h : Course t t') (ht : t.outlet.IsSilent loop sent) :
    t'.outlet.IsSilent loop sent := by
  induction h with
  | refl => exact ht
  | tail _ hstep ih => exact hstep.isSilent ih

end Turn

end FrameBridge
