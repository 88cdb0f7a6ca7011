import FrameBridge.Proofs.Delivery.Encoded
import FrameBridge.Proofs.Delivery.Up

/-!
# Bridges at rest

A bridge whose transport is up is at rest between two things that its loop does with it: no loop
runs, its promises and frames are in order, and the frames that were handed over are known.
Everything that the loop does with the bridge leads from rest to rest, since it leads from one
state to another by the laws of turns.
-/

namespace FrameBridge.Turn

variable {σ δ : Type}

/-- A bridge that is up, with the promises `ps` in the hands of its loop, has handed over the
frames `sent`. -/
structure Rests (sent : List Outbound) (ps : List Promise) (t : Turn LineCodec σ δ) : Prop where
  outside : t.hub.scope = none
  up : t.outlet.IsUp t.bridge.id
  closed : t.bridge.state = .closed → t.bridge.channel.isOpen = false
  encoded : IsEncoded t.bridge.id t.hub.journal
  account : t.outlet.IsSound [] ps ∧ t.outlet.Covers sent

/-- The laws of turns lead from one state to another. -/
def Leads (ps qs : List Promise) (t t' : Turn LineCodec σ δ) : Prop :=
  ∀ {good P}, Law good P → P ps t → P qs t'

namespace Rests

variable {sent : List Outbound} {ps qs : List Promise} {t t' : Turn LineCodec σ δ}

theorem lead (h : t.Rests sent ps) (hlead : Leads ps qs t t') (hscope : t'.hub.scope = none) :
    t'.Rests sent qs := by
  have haccount := hlead (Outlet.law_covers sent).turn.toLaw h.account
  -- There is only one bridge, so it is the same one.
  have hhome : t'.bridge.id = t.bridge.id :=
    haccount.1.isTidy.1.trans h.account.1.isTidy.1.symm
  refine ⟨hscope, ?_, ?_, ?_, haccount⟩
  · rw [hhome]
    exact hlead (law_isUp t.bridge.id) (.of ps h.up)
  · exact hlead law_shut_of_closed.toLaw (.of ps h.closed)
  · rw [hhome]
    exact hlead (law_isEncoded t.bridge.id).toLaw (.of ps h.encoded)

/-- A bridge at rest is not closed. -/
theorem state_ne (h : t.Rests sent ps) : t.bridge.state ≠ .closed := by
  intro hclosed
  have hopen : t.bridge.channel.isOpen = true := h.up.1
  rw [h.closed hclosed] at hopen
  cases hopen

theorem perm (h : t.Rests sent ps) (hperm : ps.Perm qs) : t.Rests sent qs :=
  ⟨h.outside, h.up, h.closed, h.encoded, h.account.1.perm hperm, h.account.2⟩

/-- What the channel of a bridge at rest has flushed is what was handed over, and what waits. -/
theorem flushedFrames (h : t.Rests sent ps) :
    FrameBridge.flushedFrames t.hub.journal t.bridge.id = sent ++ t.bridge.channel.flushed := by
  cases h.account.2 with
  | held _ _ hflushed => exact hflushed
  | lost hshut _ =>
      have hopen := h.up.1
      rw [hshut] at hopen
      cases hopen

/-- A write in the hands of the loop ends in some way. -/
theorem resolve {r : Resolution} (h : t.Rests sent (r.promise :: ps)) :
    Rests sent ps { t with hub := t.hub.resolve r } where
  outside := by
    have hlog := Hub.scope_log t.hub r
    exact Hub.law_scope_none.resolve_of_log (.of [] (hlog.trans h.outside))
  up := by
    have L := (Outlet.law_isUp t.bridge.id).hub t.outlet
    refine L.resolve_of_log (.of [] ⟨h.up.1, ?_⟩)
    show HasNoEnd (t.hub.log r).journal t.bridge.id
    unfold Hub.log
    split
    · exact h.up.2
    · exact h.up.2.cons rfl
  closed := h.closed
  encoded := by
    refine (Hub.law_isEncoded t.bridge.id).resolve_of_log (.of [] ?_)
    unfold Hub.log
    split
    · exact h.encoded
    · exact h.encoded.cons rfl
  account := ((Outlet.law_covers sent).hub t.outlet).resolve_of_log
    ⟨h.account.1.log, h.account.2.log h.up.1 r⟩

theorem resolveAll {rs : List Resolution} (h : t.Rests sent (rs.map (·.promise) ++ ps)) :
    Rests sent ps { t with hub := t.hub.resolveAll rs } := by
  induction rs generalizing t with
  | nil => exact h
  | cons r rs ih => exact ih h.resolve

/-- The loop takes the oldest command out of the queue. -/
theorem receive {c : Command} {hub : Hub} (h : t.Rests sent ps)
    (hnext : t.hub.nextCommand t.bridge.id = some (c, hub)) :
    c.IsFaithful ∧ Rests sent (c.promise :: ps) { t with hub } := by
  obtain ⟨hfaithful, hsound⟩ := h.account.1.receive hnext
  obtain ⟨rest, -, rfl⟩ := Hub.eq_of_nextCommand hnext
  exact ⟨hfaithful, h.outside, h.up, h.closed, h.encoded, hsound, h.account.2⟩

/-- The loop takes the flushed frames off the channel. -/
theorem takeFlushed (h : t.Rests sent ps) :
    Rests (sent ++ t.bridge.channel.flushed)
      (t.bridge.channel.flushed.map (·.promise) ++ ps)
      { t with bridge := { t.bridge with channel := t.bridge.channel.takeFlushed.2 } } where
  outside := h.outside
  up := h.up
  closed := h.closed
  encoded := h.encoded
  account := ⟨h.account.1.takeFlushed.forget (List.nil_subset _), h.account.2.takeFlushed h.up.1⟩

theorem notice (h : t.Rests sent ps) (n : Notice) : (t.notice n).Rests sent ps :=
  h.lead (fun L hP => L.notice n hP) h.outside

/-- A handle is used from outside of every loop. -/
theorem use (h : t.Rests sent ps) (target : LoopId) (now : StreamId) (a : HandleAction) :
    Rests sent ps { t with hub := t.hub.use target true now a } := by
  have hscope := Hub.law_scope_none.use target true now a (.of [] h.outside)
  exact h.lead (fun L hP => (L.hub t).use target true now a hP) hscope

/-- The codec is told something from outside. -/
theorem recode (h : t.Rests sent ps) (codec : LineCodec) :
    Rests sent ps { t with bridge := { t.bridge with codec } } :=
  ⟨h.outside, h.up, h.closed, h.encoded, (Outlet.law_covers sent).codec codec h.account⟩

end Rests

end FrameBridge.Turn
