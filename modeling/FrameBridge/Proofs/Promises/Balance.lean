import FrameBridge.Bridge.Drive
import FrameBridge.Proofs.Law.Line

/-!
# The balance of promises

Every watch that was handed out is at any time in exactly one place: with a command that
waits in a queue, with a frame that the channel holds, with whoever drives the bridge, under
way between these, or among the writes that have ended.  The balance counts each watch over
all these places.
-/

namespace FrameBridge

/-- The watch whose write an entry of the journal reports to have ended. -/
def Entry.ended? : Entry → Option Watch
  | .resolved w _ => some w
  | _ => none

/-- The watches whose writes have ended. -/
def endedIn (journal : List Record) : List Watch := journal.filterMap (·.entry.ended?)

theorem mem_endedIn {journal : List Record} {w : Watch} :
    w ∈ endedIn journal ↔ ∃ r ∈ journal, ∃ outcome, r.entry = .resolved w outcome := by
  simp only [endedIn, List.mem_filterMap]
  refine exists_congr fun r => and_congr_right fun _ => ?_
  cases r.entry <;> simp [Entry.ended?]

/-- The commands that wait, inline or in a queue. -/
def waitingIn (scope : Option Scope) (mailboxes : List Mailbox) : List Command :=
  (scope.map (·.inline)).getD [] ++ mailboxes.flatMap (·.queue)

/-- How often a watch counts among the promises of commands. -/
def owed (w : Watch) (cs : List Command) : Nat := (cs.map (·.promise)).count (.watched w)

@[simp] theorem owed_append (w : Watch) (cs ds : List Command) :
    owed w (cs ++ ds) = owed w cs + owed w ds := by
  simp [owed]

/-- A change of a mailbox that leaves its queue alone leaves the commands alone that wait. -/
theorem flatMap_queue_modify (f : Mailbox → Mailbox) (hf : ∀ m, (f m).queue = m.queue)
    (ms : List Mailbox) (i : Nat) :
    (ms.modify i f).flatMap (·.queue) = ms.flatMap (·.queue) := by
  induction ms generalizing i with
  | nil => simp
  | cons m ms ih =>
      cases i with
      | zero => simp [hf]
      | succ i => simp [ih]

/-- A command that was added to a queue waits with the others. -/
theorem flatMap_queue_modify_append (c : Command) {ms : List Mailbox} {i : Nat}
    (hi : i < ms.length) :
    ((ms.modify i fun m => { m with queue := m.queue ++ [c] }).flatMap (·.queue)).Perm
      (c :: ms.flatMap (·.queue)) := by
  induction ms generalizing i with
  | nil => cases hi
  | cons m ms ih =>
      cases i with
      | zero =>
          simp only [List.modify_zero_cons, List.flatMap_cons, List.append_assoc]
          exact List.perm_middle
      | succ i =>
          have hrest := ih (Nat.lt_of_succ_lt_succ hi)
          simp only [List.modify_succ_cons, List.flatMap_cons]
          exact (hrest.append_left m.queue).trans List.perm_middle

namespace Hub

/-- Each watch counts as often in all the places together as it was handed out.  The hub itself
knows the commands that wait and the writes that have ended; the other places are `held`. -/
def Balances (held ps : List Promise) (h : Hub) : Prop :=
  ∀ w, h.issued.count w =
    ps.count (.watched w) + owed w (waitingIn h.scope h.mailboxes) + (endedIn h.journal).count w +
      held.count (.watched w)

theorem lt_of_isOpen {h : Hub} {loop : LoopId} (hopen : h.isOpen loop) :
    loop.index < h.mailboxes.length := by
  rcases Nat.lt_or_ge loop.index h.mailboxes.length with hlt | hge
  · exact hlt
  · simp only [isOpen] at hopen
    rw [List.getElem?_eq_none hge] at hopen
    cases hopen

theorem count_endedIn_log (h : Hub) (r : Resolution) (w : Watch) :
    (endedIn (h.log r).journal).count w =
      [r.promise].count (.watched w) + (endedIn h.journal).count w := by
  unfold log
  split
  · rename_i hvoid
    simp [hvoid]
  · rename_i w' hwatched
    simp only [hwatched, endedIn, record, List.filterMap_cons, Entry.ended?, List.count_cons,
      List.count_nil, beq_iff_eq, Promise.watched.injEq]
    omega

/-- Entering how a write ended changes nothing that waits and nothing that was handed out. -/
theorem log_frame (h : Hub) (r : Resolution) :
    (h.log r).issued = h.issued ∧ (h.log r).scope = h.scope ∧
      (h.log r).mailboxes = h.mailboxes := by
  unfold log
  split <;> exact ⟨rfl, rfl, rfl⟩

theorem Balances.log {held ps : List Promise} {h : Hub} {r : Resolution}
    (hH : h.Balances held (r.promise :: ps)) : (h.log r).Balances held ps := by
  intro w
  obtain ⟨hissued, hscope, hmailboxes⟩ := log_frame h r
  have hbefore := hH w
  rw [← List.singleton_append, List.count_append] at hbefore
  rw [hissued, hscope, hmailboxes, count_endedIn_log]
  omega

/-- The balance is a law of hubs. -/
theorem law_balances (held : List Promise) : Law (fun _ => True) (Balances held) where
  good_of_faithful _ := trivial
  void hH w := by
    have hbefore := hH w
    simpa using hbefore
  log _ hH := hH.log
  forget _ _ _ hH := hH
  answered _ _ _ _ hH := hH
  issue home kind label promised ps h hH w := by
    have hbefore := hH w
    simp only [watch, List.count_cons, beq_iff_eq, Promise.watched.injEq]
    omega
  reserve loop ps h hH w := by
    have hbefore := hH w
    simp only [waitingIn] at hbefore
    have hqueues := flatMap_queue_modify
      (fun m => { m with streams := (h.mailbox loop).streams.reserve.2 }) (fun _ => rfl)
      h.mailboxes loop.index
    rw [← hqueues] at hbefore
    exact hbefore
  -- The promise moves from those under way to those that wait.
  inline {c s ps h} _ hscope hH w := by
    have hbefore := hH w
    have hcommand : owed w [c] = [c.promise].count (.watched w) := rfl
    rw [← List.singleton_append, List.count_append] at hbefore
    simp only [waitingIn, hscope, Option.map_some, Option.getD_some, owed_append] at hbefore ⊢
    omega
  queue {c loop ps h} _ hopen hH w := by
    have hbefore := hH w
    have hqueues := flatMap_queue_modify_append c (lt_of_isOpen hopen)
    have hcount := (hqueues.map (·.promise)).count_eq (.watched w)
    rw [List.map_cons, List.count_cons] at hcount
    rw [List.count_cons] at hbefore
    simp only [modifyMailbox, waitingIn, owed, List.map_append, List.count_append] at hbefore ⊢
    omega

/-- No watch was handed out twice, because each has a ticket of its own. -/
def IsNumbered (h : Hub) : Prop :=
  (∀ w ∈ h.issued, w.ticket < h.issued.length) ∧ h.issued.Nodup

theorem law_isNumbered : Law (fun _ => True) (Regardless IsNumbered) where
  good_of_faithful _ := trivial
  void hH := hH
  log {r _ h} _ hH := by
    have hissued := (log_frame h r).1
    simp only [Regardless, IsNumbered, hissued]
    exact hH
  forget _ _ _ hH := hH
  answered _ _ _ _ hH := hH
  issue home kind label promised ps h hH := by
    obtain ⟨hlt, hnodup⟩ := hH
    constructor
    · intro w hw
      rcases List.mem_cons.mp hw with rfl | hold
      · exact Nat.lt_succ_self _
      · exact Nat.lt_succ_of_lt (hlt w hold)
    · refine List.nodup_cons.mpr ⟨?_, hnodup⟩
      intro hold
      exact Nat.lt_irrefl _ (hlt _ hold)
  reserve _ _ _ hH := hH
  inline _ _ hH := hH
  queue _ _ hH := hH

end Hub

namespace Outlet

/-- The balance with the frames that the channel holds. -/
def Balances (ps : List Promise) (o : Outlet LineCodec) : Prop :=
  o.hub.Balances ((o.channel.pending ++ o.channel.flushed).map (·.promise)) ps

theorem endedIn_of_aside {loop : LoopId} {h h' : Hub} (ha : Hub.Aside loop h h') :
    endedIn h'.journal = endedIn h.journal := by
  rcases ha.journal with hsame | ⟨⟨loop, e⟩, he, hmore⟩
  · rw [hsame]
  · rw [hmore]
    cases e <;> first | rfl | cases he

theorem owed_takeInline (w : Watch) (h : Hub) :
    owed w (waitingIn h.scope h.mailboxes) =
      owed w h.takeInline.1 + owed w (waitingIn h.takeInline.2.scope h.takeInline.2.mailboxes) ∧
    h.takeInline.2.issued = h.issued ∧ h.takeInline.2.journal = h.journal := by
  cases hscope : h.scope with
  | none => simp [Hub.takeInline, waitingIn, hscope, owed]
  | some s => simp [Hub.takeInline, waitingIn, hscope, owed]

/-- The balance is a law of bridges over a codec of lines. -/
theorem law_balances : LineLaw (fun _ => True) (fun _ => True) Balances where
  hub o := Hub.law_balances ((o.channel.pending ++ o.channel.flushed).map Outbound.promise)
  fine_of_good _ := trivial
  fine_of_void _ := trivial
  aside ha hQ w := by
    rw [ha.issued, ha.scope, ha.mailboxes, endedIn_of_aside ha]
    exact hQ w
  codec _ _ _ hQ := hQ
  good_of_waiting _ _ _ := trivial
  -- Taking the queue moves the promises the other way.
  take {ps o} hQ w := by
    obtain ⟨howed, hissued, hjournal⟩ := owed_takeInline w o.hub
    have hbefore := hQ w
    simp only [hissued, hjournal, List.count_append] at hbefore ⊢
    simp only [owed] at howed hbefore ⊢
    omega
  enter {ps o} hscope hQ w := by
    have hbefore := hQ w
    unfold Hub.enter
    split
    · exact hbefore
    · rw [hscope] at hbefore
      exact hbefore
  leave {ps o} hQ w := by
    obtain ⟨howed, hissued, hjournal⟩ := owed_takeInline w o.hub
    have hempty : owed w (waitingIn none o.hub.takeInline.2.mailboxes) =
        owed w (waitingIn o.hub.takeInline.2.scope o.hub.takeInline.2.mailboxes) := by
      unfold Hub.takeInline
      split
      · rename_i hnone
        rw [hnone]
      · rfl
    have hbefore := hQ w
    simp only [hissued, hjournal, hempty, List.count_append] at hbefore ⊢
    simp only [owed] at howed hbefore ⊢
    omega
  -- A frame carries its promise from those under way into the channel.
  buffer {f ps o} _ _ hQ w := by
    have hbefore := hQ w
    rw [← List.singleton_append] at hbefore
    simp only [Hub.record, endedIn, List.filterMap_cons, Entry.ended?, List.map_append,
      List.count_append, List.map_cons, List.map_nil] at hbefore ⊢
    omega
  flush {ps o} hQ w := by
    have hbefore := hQ w
    simp only [flush, record, Channel.flush, Hub.record, endedIn, List.filterMap_cons,
      Entry.ended?, List.map_append, List.count_append, List.nil_append] at hbefore ⊢
    omega
  requestClose hQ := hQ
  leaveWord _ _ _ _ hQ := hQ
  -- What the channel held is under way again, to be resolved by an error.
  markInactive {ps o} hQ w := by
    have hbefore := hQ w
    rw [o.channel.promises_markInactive]
    simp only [Channel.markInactive, List.count_append, List.append_nil, List.map_nil,
      List.count_nil] at hbefore ⊢
    omega

/-- The numbering is a law of bridges over a codec of lines. -/
theorem law_isNumbered : PlainLaw fun o => o.hub.IsNumbered where
  hub _ := Hub.law_isNumbered
  aside ha hp := by
    simp only [Hub.IsNumbered, ha.issued]
    exact hp
  scope _ _ hp := hp
  codec _ _ hp := hp
  buffer _ _ _ hp := hp
  flush hp := hp
  requestClose hp := hp
  leaveWord _ _ _ hp := hp
  markInactive hp := hp

end Outlet

end FrameBridge
