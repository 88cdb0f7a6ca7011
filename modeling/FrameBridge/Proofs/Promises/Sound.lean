import FrameBridge.Proofs.Promises.Trace
import Mathlib.Data.List.Perm.Basic

/-!
# Sound bridges

Everything that a bridge keeps in order about promises and frames, as one invariant, and what
becomes of it when whoever drives the bridge takes something out of it or gives it back.
-/

namespace FrameBridge

/-- There is one mailbox, and nothing is left in it once it was closed. -/
def Hub.IsTidy (h : Hub) : Prop :=
  ∃ m, h.mailboxes = [m] ∧ (m.isOpen = false → m.queue = [])

theorem Hub.law_isTidy : Law (fun _ => True) (Regardless IsTidy) where
  good_of_faithful _ := trivial
  void hH := hH
  log {r _ h} _ hH := by
    obtain ⟨-, -, hmailboxes⟩ := log_frame h r
    simp only [Regardless, IsTidy, hmailboxes]
    exact hH
  forget _ _ _ hH := hH
  answered _ _ _ _ hH := hH
  issue _ _ _ _ _ _ hH := hH
  reserve loop _ h hH := by
    obtain ⟨m, hm, htidy⟩ := hH
    rcases hindex : loop.index with _ | i
    · refine ⟨{ m with streams := (h.mailbox loop).streams.reserve.2 }, ?_, htidy⟩
      simp [reserve, modifyMailbox, hm, hindex]
    · refine ⟨m, ?_, htidy⟩
      simp [reserve, modifyMailbox, hm, hindex]
  inline _ _ hH := hH
  -- Only the one mailbox can be open, and one that is open may hold anything.
  queue {c loop _ h} _ hopen hH := by
    obtain ⟨m, hm, htidy⟩ := hH
    have hlt := lt_of_isOpen hopen
    have hindex : loop.index = 0 := by
      rw [hm] at hlt
      exact Nat.lt_one_iff.mp hlt
    have hmopen : m.isOpen = true := by
      simpa [isOpen, hm, hindex] using hopen
    refine ⟨{ m with queue := m.queue ++ [c] }, ?_, ?_⟩
    · simp [modifyMailbox, hm, hindex]
    · intro hclosed
      rw [hmopen] at hclosed
      cases hclosed

namespace Outlet

/-- The bridge is the only one, and a channel that is shut holds nothing. -/
def IsTidy (o : Outlet LineCodec) : Prop :=
  o.home = ⟨0⟩ ∧ o.hub.IsTidy ∧
    (o.channel.isOpen = false → o.channel.pending = [] ∧ o.channel.flushed = [])

theorem law_isTidy : PlainLaw IsTidy where
  hub o := by
    have L := (Hub.law_of_constant (o.home = ⟨0⟩)).and (Hub.law_isTidy.and (Hub.law_of_constant
      (o.channel.isOpen = false → o.channel.pending = [] ∧ o.channel.flushed = [])))
    exact L
  aside ha hp := by
    simp only [IsTidy, Hub.IsTidy, ha.mailboxes]
    exact hp
  scope _ _ hp := hp
  codec _ _ hp := hp
  buffer f o hactive hp := by
    refine ⟨hp.1, hp.2.1, ?_⟩
    intro hshut
    have hopen : o.channel.isOpen = true := (Bool.and_eq_true_iff.mp hactive).1
    rw [hopen] at hshut
    cases hshut
  flush {o} hp := by
    refine ⟨hp.1, hp.2.1, ?_⟩
    intro hshut
    obtain ⟨hpending, hflushed⟩ := hp.2.2 hshut
    simp [flush, record, Channel.flush, hpending, hflushed]
  requestClose hp := hp
  leaveWord _ _ _ hp := hp
  markInactive hp := ⟨hp.1, hp.2.1, fun _ => ⟨rfl, rfl⟩⟩

/-- Everything that is in order while the promises `ps` are with the driver or under way, and the
frames `taken` are with the driver. -/
def IsSound (taken : List Outbound) (ps : List Promise) (o : Outlet LineCodec) : Prop :=
  (((o.IsFaithful ∧ o.Balances ps) ∧ o.hub.IsNumbered) ∧ o.IsTraced taken) ∧ o.IsTidy

theorem law_isSound (taken : List Outbound) :
    LineLaw Command.IsFaithful Outbound.IsFaithful (IsSound taken) :=
  (((law_isFaithful.and law_balances).and law_isNumbered.line).and (law_isTraced taken).line).and
    law_isTidy.line

namespace IsSound

variable {taken : List Outbound} {ps : List Promise} {o : Outlet LineCodec}

theorem isFaithful (h : o.IsSound taken ps) : o.IsFaithful := h.1.1.1.1

theorem balances (h : o.IsSound taken ps) : o.Balances ps := h.1.1.1.2

theorem isNumbered (h : o.IsSound taken ps) : o.hub.IsNumbered := h.1.1.2

theorem isTraced (h : o.IsSound taken ps) : o.IsTraced taken := h.1.2

theorem isTidy (h : o.IsSound taken ps) : o.IsTidy := h.2

/-- No watch is handed out twice. -/
theorem count_issued_le (h : o.IsSound taken ps) (w : Watch) : o.hub.issued.count w ≤ 1 :=
  List.nodup_iff_count.mp h.isNumbered.2 w

/-- No write ends twice. -/
theorem count_endedIn_le (h : o.IsSound taken ps) (w : Watch) :
    (endedIn o.hub.journal).count w ≤ 1 := by
  have hbalance := h.balances w
  have hissued := h.count_issued_le w
  omega

/-- The write of a frame that the channel holds was asked for and has not ended. -/
theorem open_of_held (h : o.IsSound taken ps) {f : Outbound} {w : Watch}
    (hf : f ∈ o.channel.pending ++ o.channel.flushed) (hw : f.promise = .watched w) :
    w ∈ o.hub.issued ∧ w ∉ endedIn o.hub.journal := by
  have hbalance := h.balances w
  have hissued := h.count_issued_le w
  have hheld : 0 < ((o.channel.pending ++ o.channel.flushed).map (·.promise)).count
      (.watched w) := by
    rw [← hw]
    exact List.count_pos_iff.mpr (List.mem_map_of_mem hf)
  refine ⟨List.count_pos_iff.mp ?_, List.count_eq_zero.mp ?_⟩ <;> omega

/-- Every write that was watched has ended once there is no place left for its promise. -/
theorem count_endedIn_of_shut (h : o.IsSound taken []) (hscope : o.hub.scope = none)
    (hgone : o.hub.isOpen o.home = false) (hshut : o.channel.isOpen = false) (w : Watch) :
    (endedIn o.hub.journal).count w = o.hub.issued.count w := by
  obtain ⟨hhome, ⟨m, hm, htidy⟩, hdrained⟩ := h.isTidy
  obtain ⟨hpending, hflushed⟩ := hdrained hshut
  have hclosed : m.isOpen = false := by simpa [Hub.isOpen, hm, hhome] using hgone
  have hwaiting : waitingIn o.hub.scope o.hub.mailboxes = [] := by
    simp [waitingIn, hscope, hm, htidy hclosed]
  have hbalance := h.balances w
  rw [hwaiting, hpending, hflushed] at hbalance
  simp only [List.map_nil, List.append_nil, List.count_nil, owed, Nat.zero_add,
    Nat.add_zero] at hbalance
  exact hbalance.symm

/-- The order of the promises outside does not matter. -/
theorem perm (h : o.IsSound taken ps) {qs : List Promise} (hperm : ps.Perm qs) :
    o.IsSound taken qs := by
  refine ⟨⟨⟨⟨h.isFaithful, ?_⟩, h.isNumbered⟩, h.isTraced⟩, h.isTidy⟩
  intro w
  rw [← hperm.count_eq]
  exact h.balances w

/-- A driver may forget frames that it has taken. -/
theorem forget (h : o.IsSound taken ps) {fewer : List Outbound} (hfewer : fewer ⊆ taken) :
    o.IsSound fewer ps := by
  refine ⟨⟨⟨⟨h.isFaithful, h.balances⟩, h.isNumbered⟩, h.isTraced.1, ?_⟩, h.isTidy⟩
  intro f hf
  rcases List.mem_append.mp hf with hflushed | htaken
  · exact h.isTraced.2 f (List.mem_append_left _ hflushed)
  · exact h.isTraced.2 f (List.mem_append_right _ (hfewer htaken))

/-- The end of a write that was under way is entered, whether it succeeded or not. -/
theorem log {r : Resolution} (h : o.IsSound taken (r.promise :: ps)) :
    Outlet.IsSound taken ps { o with hub := o.hub.log r } := by
  obtain ⟨hissued, hscope, hmailboxes⟩ := o.hub.log_frame r
  refine ⟨⟨⟨⟨?_, h.balances.log⟩, ?_⟩, ?_⟩, ?_⟩
  · simp only [IsFaithful, hscope, hmailboxes]
    exact h.isFaithful
  · simp only [Hub.IsNumbered, hissued]
    exact h.isNumbered
  · unfold Hub.log
    split
    · exact h.isTraced
    · exact h.isTraced.cons _
  · simp only [IsTidy, Hub.IsTidy, hmailboxes]
    exact h.isTidy

/-- A driver takes the oldest command out of the queue. -/
theorem receive {c : Command} {hub : Hub} (h : o.IsSound taken ps)
    (hnext : o.hub.nextCommand o.home = some (c, hub)) :
    c.IsFaithful ∧ Outlet.IsSound taken (c.promise :: ps) { o with hub } := by
  obtain ⟨hhome, ⟨m, hm, htidy⟩, hdrained⟩ := h.isTidy
  have hmailbox : o.hub.mailbox o.home = m := by simp [Hub.mailbox, hm, hhome]
  obtain ⟨rest, hqueue, rfl⟩ : ∃ rest, m.queue = c :: rest ∧
      hub = { o.hub with mailboxes := [{ m with queue := rest }] } := by
    obtain ⟨rest, hqueue, rfl⟩ := Hub.eq_of_nextCommand hnext
    rw [hmailbox] at hqueue
    refine ⟨rest, hqueue, ?_⟩
    simp [Hub.modifyMailbox, hm, hhome]
  -- What waits now waited before, and the command taken accounts for the difference.
  have hmem : ∀ c' ∈ waitingIn o.hub.scope [{ m with queue := rest }],
      c' ∈ waitingIn o.hub.scope o.hub.mailboxes := by
    intro c' hc'
    simp only [waitingIn, hm, hqueue, List.mem_append, List.flatMap_singleton,
      List.mem_cons] at hc' ⊢
    rcases hc' with hinline | hrest
    · exact .inl hinline
    · exact .inr (.inr hrest)
  have howed (w : Watch) : owed w (waitingIn o.hub.scope o.hub.mailboxes) =
      [c.promise].count (.watched w) +
        owed w (waitingIn o.hub.scope [{ m with queue := rest }]) := by
    simp only [waitingIn, hm, hqueue, owed, List.flatMap_singleton, List.map_append,
      List.map_cons, List.count_append, List.count_cons, List.count_nil]
    omega
  refine ⟨h.isFaithful.1 c ?_, ⟨⟨⟨?_, ?_⟩, h.isNumbered⟩, h.isTraced⟩, hhome, ?_, hdrained⟩
  · simp [waitingIn, hm, hqueue]
  · exact ⟨fun c' hc' => h.isFaithful.1 c' (hmem c' hc'), h.isFaithful.2⟩
  · intro w
    have hbefore := h.balances w
    rw [howed] at hbefore
    simp only [List.count_cons, List.count_nil] at hbefore ⊢
    omega
  · refine ⟨_, rfl, fun hclosed => ?_⟩
    have hempty := htidy hclosed
    rw [hqueue] at hempty
    cases hempty

/-- The queue of the bridge goes away, and its commands are under way. -/
theorem closeQueue (h : o.IsSound taken ps) :
    Outlet.IsSound taken ((o.hub.mailbox o.home).queue.map (·.promise) ++ ps)
      { o with hub := o.hub.emptied o.home } := by
  obtain ⟨hhome, ⟨m, hm, htidy⟩, hdrained⟩ := h.isTidy
  have hmailbox : o.hub.mailbox o.home = m := by simp [Hub.mailbox, hm, hhome]
  have hclosed : o.hub.mailboxes.modify o.home.index
      (fun m => { m with queue := [], isOpen := false }) =
        [{ m with queue := [], isOpen := false }] := by
    simp [hm, hhome]
  rw [hmailbox]
  simp only [Hub.emptied, Hub.modifyMailbox, hclosed]
  refine ⟨⟨⟨⟨⟨?_, h.isFaithful.2⟩, ?_⟩, h.isNumbered⟩, h.isTraced⟩, hhome, ?_, hdrained⟩
  · intro c hc
    refine h.isFaithful.1 c ?_
    simp only [waitingIn, hm, List.mem_append, List.flatMap_singleton, List.not_mem_nil,
      or_false] at hc ⊢
    exact .inl hc
  · intro w
    have hbefore := h.balances w
    simp only [waitingIn, hm, owed, List.flatMap_singleton, List.map_append, List.count_append,
      List.append_nil] at hbefore ⊢
    omega
  · exact ⟨_, rfl, fun _ => rfl⟩

/-- A driver takes the flushed frames off the channel. -/
theorem takeFlushed (h : o.IsSound taken ps) :
    Outlet.IsSound (taken ++ o.channel.flushed) (o.channel.flushed.map (·.promise) ++ ps) { o with
      channel := o.channel.takeFlushed.2 } := by
  refine ⟨⟨⟨⟨⟨h.isFaithful.1, ?_⟩, ?_⟩, h.isNumbered⟩, h.isTraced.1, ?_⟩, h.isTidy.1,
    h.isTidy.2.1, ?_⟩
  · intro f hf
    simp only [Channel.takeFlushed, List.append_nil] at hf
    exact h.isFaithful.2 f (List.mem_append_left _ hf)
  · intro w
    have hbefore := h.balances w
    simp only [Channel.takeFlushed, List.map_append, List.count_append,
      List.append_nil] at hbefore ⊢
    omega
  · intro f hf
    simp only [Channel.takeFlushed, List.nil_append] at hf
    refine h.isTraced.2 f ?_
    rw [List.mem_append] at hf ⊢
    exact hf.symm
  · intro hshut
    exact ⟨(h.isTidy.2.2 hshut).1, rfl⟩

end IsSound

end Outlet

end FrameBridge
