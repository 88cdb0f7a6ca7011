import FrameBridge.Proofs.Law.Drive

/-!
# What is on record

The journal, the events that arrived and the violations that were referred to a codec only grow,
whatever a bridge does and whatever its driver does in between.  So whoever waits for a write that
ended learns how it ended, whatever the code does that runs because of it.
-/

namespace FrameBridge

/-- Whoever watches a write that ended was told how it ended. -/
def Resolution.IsKnown (r : Resolution) (h : Hub) : Prop :=
  ∀ w, r.promise = .watched w → ⟨w.home, .resolved w r.outcome⟩ ∈ h.journal

namespace Hub

/-- Nothing that an earlier hub has on record is gone. -/
structure Recalls (h older : Hub) : Prop where
  journal : older.journal <:+ h.journal
  arrivals : older.arrivals <:+ h.arrivals
  referrals : older.referrals <:+ h.referrals

theorem Recalls.refl (h : Hub) : h.Recalls h :=
  ⟨List.suffix_rfl, List.suffix_rfl, List.suffix_rfl⟩

theorem Recalls.record {h older : Hub} (hr : h.Recalls older) (loop : LoopId) (e : Entry) :
    (h.record loop e).Recalls older :=
  ⟨hr.journal.trans (List.suffix_cons _ _), hr.arrivals, hr.referrals⟩

theorem Recalls.log {h older : Hub} (hr : h.Recalls older) (r : Resolution) :
    (h.log r).Recalls older := by
  unfold Hub.log
  split
  · exact hr
  · exact hr.record _ _

theorem Recalls.aside {h h' older : Hub} {loop : LoopId} (hr : h.Recalls older)
    (ha : Aside loop h h') : h'.Recalls older := by
  cases ha with
  | record he => exact hr.record loop _
  | notice | meter => exact ⟨hr.journal, hr.arrivals, hr.referrals⟩
  | arrive e => exact ⟨hr.journal, hr.arrivals.trans (List.suffix_cons _ _), hr.referrals⟩
  | refer e => exact ⟨hr.journal, hr.arrivals, hr.referrals.trans (List.suffix_cons _ _)⟩

/-- Neither handles nor callbacks of writes undo what is on record. -/
theorem law_recalls (older : Hub) : Law (fun _ => True) (Regardless (Recalls · older)) where
  good_of_faithful _ := trivial
  void h := h
  log _ hr := hr.log _
  forget _ _ _ hr := ⟨hr.journal, hr.arrivals, hr.referrals⟩
  answered home _ _ _ hr := hr.record home _
  issue _ _ _ _ _ _ hr := ⟨hr.journal, hr.arrivals, hr.referrals⟩
  reserve _ _ _ hr := ⟨hr.journal, hr.arrivals, hr.referrals⟩
  inline _ _ hr := ⟨hr.journal, hr.arrivals, hr.referrals⟩
  queue _ _ hr := ⟨hr.journal, hr.arrivals, hr.referrals⟩

theorem Recalls.isKnown {h older : Hub} (hr : h.Recalls older) {r : Resolution}
    (hknown : r.IsKnown older) : r.IsKnown h :=
  fun w hw => hr.journal.subset (hknown w hw)

theorem isKnown_log (h : Hub) (r : Resolution) : r.IsKnown (h.log r) := by
  intro w hw
  simp only [log, hw]
  exact List.mem_cons_self

theorem isKnown_resolve (h : Hub) (r : Resolution) : r.IsKnown (h.resolve r) := by
  have hrecalls : (h.resolve r).Recalls (h.log r) :=
    (law_recalls (h.log r)).resolve_of_log (.of [] (.refl _))
  exact hrecalls.isKnown (h.isKnown_log r)

end Hub

/-- Nothing that a bridge does undoes what is on record. -/
theorem Outlet.steady_recalls {κ : Type} (older : Hub) :
    Outlet.Steady fun o : Outlet κ => o.hub.Recalls older where
  hub _ := Hub.law_recalls older
  aside ha hr := hr.aside ha
  codec _ _ hr := hr
  buffer _ _ _ hr := hr.record _ _
  flush hr := hr.record _ _
  requestClose hr := hr
  leaveWord _ _ _ hr := hr
  markInactive hr := hr
  take {o} hr := by
    obtain ⟨scope, hscope⟩ := o.hub.takeInline_eq
    rw [hscope]
    exact ⟨hr.journal, hr.arrivals, hr.referrals⟩

/-- Nothing that a driver does undoes what is on record. -/
theorem Drive.recalls_run {κ σ δ : Type} [Codec κ] [Connection σ] [Decoder δ] (rounds : Nat)
    (steps : List (DriveStep κ)) (d : Drive κ σ δ) :
    (d.run rounds steps).turn.hub.Recalls d.turn.hub :=
  (Outlet.Steady.drive (Outlet.steady_recalls d.turn.hub)
    (fun _ _ hr => ⟨hr.journal, hr.arrivals, hr.referrals⟩)
    (fun _ _ _ hr => ⟨hr.journal, hr.arrivals, hr.referrals⟩)
    (fun _ _ hr => hr.log _) fun hr => hr).run rounds (fun _ _ _ _ => trivial) (.refl d.turn.hub)

end FrameBridge
