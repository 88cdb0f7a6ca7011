import FrameBridge.Proofs.Promises.Balance

/-!
# Where frames come from

A frame that the channel holds was accepted before, and flushed since if it waits for the
transport.  A frame whose success reports a promised stream promises that very stream.  And
nothing that a bridge does by itself makes a write succeed.
-/

namespace FrameBridge

/-- A frame whose promise reports a promised stream promises that very stream. -/
def Outbound.IsFaithful (f : Outbound) : Prop :=
  ∀ w id, f.promise = .watched w → w.promised = some id →
    ∃ s hs, f.bytes = Bytes.ofText (LineCodec.line (.pushPromise s id hs 0) ++ "\n")

theorem Command.IsFaithful.frameOf {c : Command} (h : c.IsFaithful) :
    (LineCodec.frameOf c).IsFaithful := by
  intro w id hw hid
  obtain ⟨s, hs, rfl⟩ := h w id hw hid
  exact ⟨s, hs, rfl⟩

/-- The watch of a write that an entry of the journal reports to have succeeded. -/
def Entry.succeeded? : Entry → Option Watch
  | .resolved w (.ok _) => some w
  | _ => none

theorem Entry.succeeded?_of_isEcho {e : Entry} (h : e.isEcho) : e.succeeded? = none := by
  unfold Entry.isEcho at h
  split at h <;> first | rfl | cases h

/-- The watches whose writes have succeeded. -/
def succeededIn (journal : List Record) : List Watch :=
  journal.filterMap (·.entry.succeeded?)

/-- The watch of a write that an entry of the journal reports to have failed. -/
def Entry.failed? : Entry → Option Watch
  | .resolved w (.error _) => some w
  | _ => none

/-- The watches whose writes have failed. -/
def failedIn (journal : List Record) : List Watch :=
  journal.filterMap (·.entry.failed?)

/-- A write that has ended has succeeded or failed. -/
theorem count_endedIn (journal : List Record) (w : Watch) :
    (endedIn journal).count w = (succeededIn journal).count w + (failedIn journal).count w := by
  induction journal with
  | nil => rfl
  | cons r journal ih =>
      obtain ⟨loop, e⟩ := r
      cases e with
      | resolved w' outcome =>
          cases outcome with
          | ok u =>
              show (w' :: endedIn journal).count w =
                (w' :: succeededIn journal).count w + (failedIn journal).count w
              rw [List.count_cons, List.count_cons]
              omega
          | error e =>
              show (w' :: endedIn journal).count w =
                (succeededIn journal).count w + (w' :: failedIn journal).count w
              rw [List.count_cons, List.count_cons]
              omega
      | _ => exact ih

/-- The journal reports that the channel of a loop accepted a frame. -/
def AcceptedIn (journal : List Record) (loop : LoopId) (f : Outbound) : Prop :=
  ∃ r ∈ journal, r.loop = loop ∧ r.entry = .accepted f

/-- The journal reports that the channel of a loop accepted a frame, and flushed since. -/
def FlushedIn (journal : List Record) (loop : LoopId) (f : Outbound) : Prop :=
  ∃ newer older, journal = newer ++ ⟨loop, .accepted f⟩ :: older ∧ ⟨loop, .flushed⟩ ∈ newer

theorem FlushedIn.accepted {journal : List Record} {loop : LoopId} {f : Outbound}
    (h : FlushedIn journal loop f) : AcceptedIn journal loop f := by
  obtain ⟨newer, older, rfl, -⟩ := h
  exact ⟨⟨loop, .accepted f⟩, by simp, rfl, rfl⟩

theorem AcceptedIn.cons {journal : List Record} {loop : LoopId} {f : Outbound}
    (h : AcceptedIn journal loop f) (r : Record) : AcceptedIn (r :: journal) loop f := by
  obtain ⟨r', hr', hmatch⟩ := h
  exact ⟨r', List.mem_cons_of_mem r hr', hmatch⟩

theorem FlushedIn.cons {journal : List Record} {loop : LoopId} {f : Outbound}
    (h : FlushedIn journal loop f) (r : Record) : FlushedIn (r :: journal) loop f := by
  obtain ⟨newer, older, rfl, hflushed⟩ := h
  exact ⟨r :: newer, older, rfl, List.mem_cons_of_mem r hflushed⟩

/-- A frame that was accepted is flushed by the next flush. -/
theorem AcceptedIn.flush {journal : List Record} {loop : LoopId} {f : Outbound}
    (h : AcceptedIn journal loop f) : FlushedIn (⟨loop, .flushed⟩ :: journal) loop f := by
  obtain ⟨⟨loop', e⟩, hr, rfl, rfl⟩ := h
  obtain ⟨newer, older, rfl⟩ := List.append_of_mem hr
  exact ⟨⟨loop', .flushed⟩ :: newer, older, rfl, List.mem_cons_self⟩

namespace Hub

/-- Commands that are handed to a hub wait as they are. -/
theorem law_waiting {good : Command → Prop} (hgood : ∀ {c : Command}, c.IsFaithful → good c) :
    Law good (Regardless fun h => ∀ c ∈ waitingIn h.scope h.mailboxes, good c) where
  good_of_faithful := hgood
  void hH := hH
  log {r _ h} _ hH := by
    obtain ⟨-, hscope, hmailboxes⟩ := log_frame h r
    simp only [Regardless, hscope, hmailboxes]
    exact hH
  forget _ _ _ hH := hH
  answered _ _ _ _ hH := hH
  issue _ _ _ _ _ _ hH := hH
  reserve loop _ h hH := by
    have hqueues := flatMap_queue_modify
      (fun m => { m with streams := (h.mailbox loop).streams.reserve.2 }) (fun _ => rfl)
      h.mailboxes loop.index
    intro c hc
    refine hH c ?_
    rw [waitingIn, ← hqueues]
    exact hc
  inline {c s _ h} hc hscope hH := by
    intro c' hc'
    simp only [waitingIn, Option.map_some, Option.getD_some, List.mem_append,
      List.mem_singleton] at hc'
    rcases hc' with (hold | rfl) | hqueued
    · refine hH c' ?_
      simp [waitingIn, hscope, hold]
    · exact hc
    · exact hH c' (List.mem_append_right _ hqueued)
  queue {c loop _ h} hc hopen hH := by
    have hqueues := flatMap_queue_modify_append c (lt_of_isOpen hopen)
    intro c' hc'
    rcases List.mem_append.mp hc' with hinline | hqueued
    · exact hH c' (List.mem_append_left _ hinline)
    · rcases List.mem_cons.mp (hqueues.mem_iff.mp hqueued) with rfl | hold
      · exact hc
      · exact hH c' (List.mem_append_right _ hold)

end Hub

namespace Outlet

/-- Every command that waits is faithful, and so is every frame that the channel holds. -/
def IsFaithful (o : Outlet LineCodec) : Prop :=
  (∀ c ∈ waitingIn o.hub.scope o.hub.mailboxes, c.IsFaithful) ∧
    ∀ f ∈ o.channel.pending ++ o.channel.flushed, f.IsFaithful

/-- Every frame that the channel holds was accepted; it was flushed since if it waits for the
transport, and so was every frame that was taken off the channel. -/
def IsTracedIn (taken : List Outbound) (channel : Channel) (home : LoopId)
    (journal : List Record) : Prop :=
  (∀ f ∈ channel.pending, AcceptedIn journal home f) ∧
    ∀ f ∈ channel.flushed ++ taken, FlushedIn journal home f

theorem IsTracedIn.cons {taken : List Outbound} {channel : Channel} {home : LoopId} (r : Record)
    (journal : List Record) (h : IsTracedIn taken channel home journal) :
    IsTracedIn taken channel home (r :: journal) :=
  ⟨fun f hf => (h.1 f hf).cons r, fun f hf => (h.2 f hf).cons r⟩

def IsTraced (taken : List Outbound) (o : Outlet LineCodec) : Prop :=
  IsTracedIn taken o.channel o.home o.hub.journal

theorem mem_waitingIn_takeInline (h : Hub) :
    (∀ c ∈ h.takeInline.1, c ∈ waitingIn h.scope h.mailboxes) ∧
    ∀ c ∈ waitingIn h.takeInline.2.scope h.takeInline.2.mailboxes,
      c ∈ waitingIn h.scope h.mailboxes := by
  cases hscope : h.scope with
  | none => simp [Hub.takeInline, waitingIn, hscope]
  | some s =>
      simp only [Hub.takeInline, waitingIn, hscope, Option.map_some, Option.getD_some,
        List.nil_append]
      exact ⟨fun c hc => List.mem_append_left _ hc, fun c hc => List.mem_append_right _ hc⟩

/-- Faithfulness is a law of bridges over a codec of lines. -/
theorem law_isFaithful :
    LineLaw Command.IsFaithful Outbound.IsFaithful (Regardless IsFaithful) where
  hub o := (Hub.law_waiting fun hc => hc).and
    (Hub.law_of_constant (∀ f ∈ o.channel.pending ++ o.channel.flushed, f.IsFaithful))
  fine_of_good hc := hc.frameOf
  fine_of_void hvoid := by
    intro w id hw
    rw [hvoid] at hw
    cases hw
  aside {ps o h} ha hQ := by
    simp only [Regardless, IsFaithful, ha.scope, ha.mailboxes]
    exact hQ
  codec _ _ _ hQ := hQ
  good_of_waiting {ps o} hQ c hc := hQ.1 c ((mem_waitingIn_takeInline o.hub).1 c hc)
  take {ps o} hQ := ⟨fun c hc => hQ.1 c ((mem_waitingIn_takeInline o.hub).2 c hc), hQ.2⟩
  enter {ps o} hscope hQ := by
    unfold Hub.enter
    split
    · exact hQ
    · refine ⟨fun c hc => hQ.1 c ?_, hQ.2⟩
      rw [hscope]
      exact hc
  -- Commands that are left inline are on their way to be dropped; the others wait as before.
  leave {ps o} hQ := by
    refine ⟨fun c hc => hQ.1 c ((mem_waitingIn_takeInline o.hub).2 c ?_), hQ.2⟩
    exact List.mem_append_right _ hc
  buffer {f ps o} hf _ hQ := by
    refine ⟨hQ.1, fun f' hf' => ?_⟩
    simp only [List.mem_append, List.mem_singleton] at hf'
    rcases hf' with (hold | rfl) | hflushed
    · exact hQ.2 f' (List.mem_append_left _ hold)
    · exact hf
    · exact hQ.2 f' (List.mem_append_right _ hflushed)
  flush {ps o} hQ := by
    refine ⟨hQ.1, fun f hf => hQ.2 f ?_⟩
    simp only [flush, record, Channel.flush, List.nil_append, List.mem_append] at hf
    rw [List.mem_append]
    exact hf.symm
  requestClose hQ := hQ
  leaveWord _ _ _ _ hQ := hQ
  markInactive hQ := ⟨hQ.1, nofun⟩

/-- That frames are traced is a law of bridges over a codec of lines. -/
theorem law_isTraced (taken : List Outbound) : PlainLaw (IsTraced taken) where
  hub o := by
    have L := Hub.law_journal (p := IsTracedIn taken o.channel o.home) fun r j _ h => h.cons r
    exact L
  aside {o h} ha hp := by
    simp only [IsTraced]
    rcases ha.journal with hsame | ⟨r, -, hmore⟩
    · rw [hsame]
      exact hp
    · rw [hmore]
      exact hp.cons r
  scope _ _ hp := hp
  codec _ _ hp := hp
  buffer f o _ hp := by
    refine ⟨?_, fun f' hf' => (hp.2 f' hf').cons _⟩
    intro f' hf'
    rcases List.mem_append.mp hf' with hold | hlast
    · exact (hp.1 f' hold).cons _
    · obtain rfl := List.mem_singleton.mp hlast
      exact ⟨_, List.mem_cons_self, rfl, rfl⟩
  flush {o} hp := by
    refine ⟨nofun, ?_⟩
    intro f hf
    simp only [flush, record, Channel.flush, List.mem_append] at hf
    -- Frames flushed earlier, frames flushed just now, and frames that were taken.
    rcases hf with (hold | hnew) | htaken
    · exact (hp.2 f (List.mem_append_left _ hold)).cons _
    · exact (hp.1 f hnew).flush
    · exact (hp.2 f (List.mem_append_right _ htaken)).cons _
  requestClose hp := hp
  leaveWord _ _ _ hp := hp
  markInactive hp := ⟨nofun, fun f hf => hp.2 f (List.mem_append_right _ hf)⟩

/-- What is not lost when the journal grows, but for writes that succeed, is a law of bridges
over a codec of lines: nothing that they do by themselves makes a write succeed. -/
theorem law_journal {p : List Record → Prop}
    (hp : ∀ r j, r.entry.succeeded? = none → p j → p (r :: j)) :
    PlainLaw fun o => p o.hub.journal where
  hub _ := Hub.law_journal fun r j hr => hp r j (Entry.succeeded?_of_isEcho hr)
  aside {o h} ha h' := by
    rcases ha.journal with hsame | ⟨r, hr, hmore⟩
    · rw [hsame]
      exact h'
    · rw [hmore]
      refine hp r _ ?_ h'
      cases he : r.entry <;> first | rfl | (rw [he] at hr; cases hr)
  scope _ _ h := h
  codec _ _ h := h
  buffer _ _ _ h := hp _ _ rfl h
  flush h := hp _ _ rfl h
  requestClose h := h
  leaveWord _ _ _ h := h
  markInactive h := h

end Outlet

end FrameBridge
