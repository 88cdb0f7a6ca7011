import FrameBridge.Proofs.Law.Journal
import FrameBridge.Proofs.Promises.Sound

/-!
# What was handed over

The frames that a channel accepted are those that were handed over to the transport, those that
were flushed and wait for it, and those that are still buffered, in this order and without a
gap.  Once the channel is shut the frames that were not handed over are lost: their writes were
asked for and can only fail.
-/

namespace FrameBridge

/-- Entries of the journal that say nothing of frames, and report no success. -/
def Entry.isIdle (e : Entry) : Prop :=
  e.accepted? = none ∧ e.isFlush = false ∧ e.succeeded? = none

theorem Entry.isIdle_of_isAside {e : Entry} (h : e.isAside) : e.isIdle := by
  cases e <;> first | exact ⟨rfl, rfl, rfl⟩ | cases h

theorem Entry.isIdle_of_isEcho {e : Entry} (h : e.isEcho) : e.isIdle := by
  have hnone := Entry.succeeded?_of_isEcho h
  cases e <;> first | exact ⟨rfl, rfl, hnone⟩ | cases h

theorem succeededIn_subset_endedIn (journal : List Record) :
    succeededIn journal ⊆ endedIn journal := by
  intro w hw
  have hcount := count_endedIn journal w
  have hsucceeded := List.count_pos_iff.mpr hw
  exact List.count_pos_iff.mp (by omega)

/-- The frames behind `sent` that the channel of the loop `home` accepted are lost: whoever
watches their writes was given a watch, and the writes did not succeed. -/
def IsLostBehind (sent : List Outbound) (home : LoopId) (issued : List Watch)
    (journal : List Record) : Prop :=
  ∃ rest, acceptedFrames journal home = sent ++ rest ∧
    ∀ f ∈ rest, ∀ w, f.promise = .watched w → w ∈ issued ∧ w ∉ succeededIn journal

namespace IsLostBehind

variable {sent : List Outbound} {home : LoopId} {issued : List Watch} {journal : List Record}

theorem cons (h : IsLostBehind sent home issued journal) {r : Record}
    (haccepted : r.entry.accepted? = none) (hsucceeded : r.entry.succeeded? = none) :
    IsLostBehind sent home issued (r :: journal) := by
  have hframes : acceptedFrames (r :: journal) home = acceptedFrames journal home :=
    reported_cons_of_none _ haccepted journal home
  have hsuccesses : succeededIn (r :: journal) = succeededIn journal :=
    List.filterMap_cons_none hsucceeded
  unfold IsLostBehind
  rw [hframes, hsuccesses]
  exact h

theorem issue (h : IsLostBehind sent home issued journal) (w : Watch) :
    IsLostBehind sent home (w :: issued) journal := by
  obtain ⟨rest, hrest, hlost⟩ := h
  refine ⟨rest, hrest, ?_⟩
  intro f hf w' hw'
  obtain ⟨hissued, hnot⟩ := hlost f hf w' hw'
  exact ⟨List.mem_cons_of_mem w hissued, hnot⟩

end IsLostBehind

/-- The channel of the loop `home` has handed over the frames `sent`.  While it is open it holds
the rest of what it accepted, and once it is shut the rest is lost. -/
inductive Channel.Covers (sent : List Outbound) (c : Channel) (home : LoopId)
    (issued : List Watch) (journal : List Record) : Prop
  | held (hopen : c.isOpen = true)
      (haccepted : acceptedFrames journal home = sent ++ (c.flushed ++ c.pending))
      (hflushed : flushedFrames journal home = sent ++ c.flushed)
  | lost (hshut : c.isOpen = false) (hlost : IsLostBehind sent home issued journal)

namespace Channel.Covers

variable {sent : List Outbound} {c : Channel} {home : LoopId} {issued : List Watch}
  {journal : List Record}

/-- An entry that does not speak of frames leaves what an open channel holds as it is. -/
theorem cons_of_isOpen (h : c.Covers sent home issued journal) (hopen : c.isOpen = true)
    {r : Record} (haccepted : r.entry.accepted? = none) (hflush : r.entry.isFlush = false) :
    c.Covers sent home issued (r :: journal) := by
  cases h with
  | held _ hheld hflushed =>
      refine .held hopen ?_ ?_
      · rw [acceptedFrames, reported_cons_of_none _ haccepted]
        exact hheld
      · rw [flushedFrames_cons_of_not hflush]
        exact hflushed
  | lost hshut _ =>
      rw [hopen] at hshut
      cases hshut

theorem cons (h : c.Covers sent home issued journal) {r : Record} (hr : r.entry.isIdle) :
    c.Covers sent home issued (r :: journal) := by
  obtain ⟨haccepted, hflush, hsucceeded⟩ := hr
  cases h with
  | held hopen hheld hflushed =>
      exact (held hopen hheld hflushed).cons_of_isOpen hopen haccepted hflush
  | lost hshut hlost => exact .lost hshut (hlost.cons haccepted hsucceeded)

theorem issue (h : c.Covers sent home issued journal) (w : Watch) :
    c.Covers sent home (w :: issued) journal := by
  cases h with
  | held hopen hheld hflushed => exact .held hopen hheld hflushed
  | lost hshut hlost => exact .lost hshut (hlost.issue w)

/-- What changes neither the frames of a channel nor whether it is open keeps what it covers. -/
theorem congr {c' : Channel} (h : c.Covers sent home issued journal) (hopen : c'.isOpen = c.isOpen)
    (hpending : c'.pending = c.pending) (hflushed : c'.flushed = c.flushed) :
    c'.Covers sent home issued journal := by
  cases h with
  | held hyes haccepted hframes =>
      rw [← hopen] at hyes
      rw [← hflushed] at haccepted hframes
      rw [← hpending] at haccepted
      exact .held hyes haccepted hframes
  | lost hno hlost =>
      rw [← hopen] at hno
      exact .lost hno hlost

end Channel.Covers

/-- What a use of a handle leaves behind does not change what was handed over. -/
theorem Hub.law_covers (sent : List Outbound) (c : Channel) (home : LoopId) :
    Hub.Law (fun _ => True) (Regardless fun h => c.Covers sent home h.issued h.journal) :=
  Hub.law_records (p := c.Covers sent home) (fun w _ _ h => h.issue w)
    (fun _ _ _ hr h => h.cons (Entry.isIdle_of_isEcho hr))

namespace Outlet

/-- The frames `sent` of an outlet were handed over. -/
def Covers (sent : List Outbound) (o : Outlet LineCodec) : Prop :=
  o.channel.Covers sent o.home o.hub.issued o.hub.journal

namespace Covers

variable {sent : List Outbound} {o : Outlet LineCodec}

theorem buffer (f : Outbound) (hactive : o.channel.isActive = true) (h : o.Covers sent) :
    Outlet.Covers sent { o with
      channel := { o.channel with pending := o.channel.pending ++ [f] }
      hub := o.hub.record o.home (.accepted f) } := by
  have hopen : o.channel.isOpen = true := (Bool.and_eq_true_iff.mp hactive).1
  cases h with
  | held _ haccepted hflushed =>
      -- The newest entry of the journal is the last frame of the channel.
      have hmore : acceptedFrames (⟨o.home, .accepted f⟩ :: o.hub.journal) o.home =
          acceptedFrames o.hub.journal o.home ++ [f] := by
        rw [acceptedFrames, reported_cons, if_pos rfl]
        rfl
      refine .held hopen ?_ ?_
      · show acceptedFrames (⟨o.home, .accepted f⟩ :: o.hub.journal) o.home =
          sent ++ (o.channel.flushed ++ (o.channel.pending ++ [f]))
        rw [hmore, haccepted]
        simp only [List.append_assoc]
      · show flushedFrames (⟨o.home, .accepted f⟩ :: o.hub.journal) o.home =
          sent ++ o.channel.flushed
        rw [flushedFrames_cons_of_not rfl]
        exact hflushed
  | lost hshut hlost =>
      rw [hopen] at hshut
      cases hshut

theorem flush (h : o.Covers sent) : o.flush.Covers sent := by
  have hframes : acceptedFrames o.flush.hub.journal o.home = acceptedFrames o.hub.journal o.home :=
    reported_cons_of_none _ (r := ⟨o.home, .flushed⟩) rfl o.hub.journal o.home
  have hnow : flushedFrames o.flush.hub.journal o.home = acceptedFrames o.hub.journal o.home :=
    if_pos ⟨rfl, rfl⟩
  cases h with
  | held hopen haccepted hflushed =>
      -- What was buffered has moved behind what was flushed before.
      refine .held hopen ?_ ?_
      · show acceptedFrames o.flush.hub.journal o.home =
          sent ++ ((o.channel.flushed ++ o.channel.pending) ++ [])
        rw [hframes, haccepted, List.append_nil]
      · exact hnow.trans haccepted
  | lost hshut hlost => exact .lost hshut (hlost.cons rfl rfl)

/-- The flushed frames are handed over. -/
theorem takeFlushed (h : o.Covers sent) (hopen : o.channel.isOpen = true) :
    Outlet.Covers (sent ++ o.channel.flushed) { o with channel := o.channel.takeFlushed.2 } := by
  cases h with
  | held _ haccepted hflushed =>
      refine .held hopen ?_ ?_
      · show acceptedFrames o.hub.journal o.home =
          sent ++ o.channel.flushed ++ ([] ++ o.channel.pending)
        rw [haccepted, List.nil_append, List.append_assoc]
      · show flushedFrames o.hub.journal o.home = sent ++ o.channel.flushed ++ []
        rw [hflushed, List.append_nil]
  | lost hshut _ =>
      rw [hopen] at hshut
      cases hshut

/-- While the channel is open any write may end. -/
theorem log (h : o.Covers sent) (hopen : o.channel.isOpen = true) (r : Resolution) :
    Outlet.Covers sent { o with hub := o.hub.log r } := by
  unfold Hub.log
  split
  · exact h
  · exact h.cons_of_isOpen hopen rfl rfl

/-- A channel that is shut loses what it holds: whoever watches these writes was given a watch,
and none of them has ended. -/
theorem markInactive {taken : List Outbound} {ps : List Promise} (h : o.Covers sent)
    (hsound : o.IsSound taken ps) :
    Outlet.Covers sent { o with channel := o.channel.markInactive.1 } := by
  refine .lost rfl ?_
  cases h with
  | held hopen haccepted hflushed =>
      refine ⟨_, haccepted, ?_⟩
      intro f hf w hw
      have hheld : f ∈ o.channel.pending ++ o.channel.flushed := by
        rw [List.mem_append] at hf ⊢
        exact hf.symm
      obtain ⟨hissued, hopen⟩ := hsound.open_of_held hheld hw
      exact ⟨hissued, fun hsucceeded => hopen (succeededIn_subset_endedIn _ hsucceeded)⟩
  | lost hshut hlost => exact hlost

end Covers

/-- Everything is in order, and the frames `sent` were handed over. -/
theorem law_covers (sent : List Outbound) :
    LineLaw Command.IsFaithful Outbound.IsFaithful
      fun ps o => o.IsSound [] ps ∧ o.Covers sent where
  hub o := ((law_isSound []).hub o).and (Hub.law_covers sent o.channel o.home)
  fine_of_good := (law_isSound []).fine_of_good
  fine_of_void := (law_isSound []).fine_of_void
  aside {ps o h} ha hQ := by
    refine ⟨(law_isSound []).aside ha hQ.1, ?_⟩
    unfold Covers
    rw [ha.issued]
    rcases ha.journal with hsame | ⟨r, hr, hmore⟩
    · rw [hsame]
      exact hQ.2
    · rw [hmore]
      exact hQ.2.cons (Entry.isIdle_of_isAside hr)
  codec c _ _ hQ := ⟨(law_isSound []).codec c hQ.1, hQ.2⟩
  good_of_waiting hQ := (law_isSound []).good_of_waiting hQ.1
  take {ps o} hQ := by
    refine ⟨(law_isSound []).take hQ.1, ?_⟩
    obtain ⟨s, hs⟩ := o.hub.takeInline_eq
    rw [hs]
    exact hQ.2
  enter {ps o} hscope hQ := by
    refine ⟨(law_isSound []).enter hscope hQ.1, ?_⟩
    obtain ⟨s, hs⟩ := o.hub.enter_eq o.home
    rw [hs]
    exact hQ.2
  leave {ps o} hQ := by
    refine ⟨(law_isSound []).leave hQ.1, ?_⟩
    obtain ⟨s, hs⟩ := o.hub.takeInline_eq
    rw [hs]
    exact hQ.2
  buffer hf hactive hQ := ⟨(law_isSound []).buffer hf hactive hQ.1, hQ.2.buffer _ hactive⟩
  flush hQ := ⟨(law_isSound []).flush hQ.1, hQ.2.flush⟩
  requestClose hQ := ⟨(law_isSound []).requestClose hQ.1, hQ.2.congr rfl rfl rfl⟩
  leaveWord faults notifications _ _ hQ :=
    ⟨(law_isSound []).leaveWord faults notifications hQ.1, hQ.2.congr rfl rfl rfl⟩
  markInactive hQ := ⟨(law_isSound []).markInactive hQ.1, hQ.2.markInactive hQ.1⟩

end Outlet

end FrameBridge
