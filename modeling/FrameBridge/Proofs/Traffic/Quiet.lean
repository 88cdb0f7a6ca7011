import FrameBridge.Proofs.Issue.Sight
import FrameBridge.Proofs.Law.Recall

/-!
# Hubs without traffic

Most of what happens to a hub neither puts a command anywhere nor takes one away.  That also holds
of the end of a write, as long as the code that waits for it sends nothing.  What is left is the
sending of a command, which puts it in one place.

* `Hub.Quiet` says that there was no traffic between two states of a hub.
* `Hub.send` is what becomes of a command that is sent, and `Hub.place` says where it goes.
* `Hub.use_cases` says that whoever uses a handle sends one command at most.
* `Outlet.mild_quiet` and `Outlet.catchUp_of_isMute` say what this means for a bridge that writes.
* `Outlet.steady_elsewhere` says that a bridge calls no codec but its own.
-/

namespace FrameBridge

/-- Whoever watches the write of a command was told that it did not get through. -/
def Command.HasFailed (c : Command) (h : Hub) : Prop :=
  ∀ w, c.promise = .watched w → ⟨w.home, .resolved w (.error .channelClosed)⟩ ∈ h.journal

namespace Hub

/-- The code that waits for writes asks questions and sends nothing. -/
def IsMute (h : Hub) : Prop := ∀ r ∈ h.reactions, ∀ u ∈ r.uses, u.action = .isClosed

/-- Nothing was put into a queue and nothing was taken out between two states of a hub. -/
structure Quiet (h h' : Hub) : Prop where
  scope : h'.scope = h.scope
  queue : ∀ loop, (h'.mailbox loop).queue = (h.mailbox loop).queue
  isOpen : ∀ loop, h'.isOpen loop = h.isOpen loop
  reactions : h'.reactions ⊆ h.reactions
  journal : h.journal <:+ h'.journal

variable {h h' h'' : Hub}

namespace Quiet

/-- Where the mailboxes and the scope stay there was no traffic. -/
theorem of_same (hscope : h'.scope = h.scope) (hmailboxes : h'.mailboxes = h.mailboxes)
    (hreactions : h'.reactions ⊆ h.reactions) (hjournal : h.journal <:+ h'.journal) :
    h.Quiet h' where
  scope := hscope
  queue loop := by rw [mailbox, hmailboxes, mailbox]
  isOpen loop := by rw [Hub.isOpen, hmailboxes, Hub.isOpen]
  reactions := hreactions
  journal := hjournal

theorem refl (h : Hub) : h.Quiet h := of_same rfl rfl (List.Subset.refl _) List.suffix_rfl

theorem trans (hq : h.Quiet h') (hq' : h'.Quiet h'') : h.Quiet h'' where
  scope := hq'.scope.trans hq.scope
  queue loop := (hq'.queue loop).trans (hq.queue loop)
  isOpen loop := (hq'.isOpen loop).trans (hq.isOpen loop)
  reactions _ hr := hq.reactions (hq'.reactions hr)
  journal := hq.journal.trans hq'.journal

theorem isMute (hq : h.Quiet h') (hm : h.IsMute) : h'.IsMute :=
  fun r hr => hm r (hq.reactions hr)

theorem record (h : Hub) (loop : LoopId) (e : Entry) : h.Quiet (h.record loop e) :=
  of_same rfl rfl (List.Subset.refl _) (List.suffix_cons _ _)

theorem aside (loop : LoopId) (ha : Aside loop h h') : h.Quiet h' := by
  cases ha with
  | record he => exact record h loop _
  | notice | meter | arrive | refer =>
      exact of_same rfl rfl (List.Subset.refl _) List.suffix_rfl

theorem log (h : Hub) (r : Resolution) : h.Quiet (h.log r) := by
  unfold Hub.log
  split
  · exact refl h
  · exact record h _ _

theorem watch (h : Hub) (home : LoopId) (kind : WatchKind) (label : String)
    (promised : Option StreamId) : h.Quiet (h.watch home kind label promised).2 :=
  of_same rfl rfl (List.Subset.refl _) List.suffix_rfl

theorem promise (h : Hub) (home : LoopId) (w : WatchRequest) : h.Quiet (h.promise home w).2 := by
  cases w with
  | none => exact refl h
  | some request => exact watch h home request.1 request.2 none

theorem forget (h : Hub) (label : String) : h.Quiet (h.forget label) :=
  of_same rfl rfl (List.eraseP_subset) List.suffix_rfl

theorem reserve (h : Hub) (loop : LoopId) : h.Quiet (h.reserve loop).2 where
  scope := rfl
  queue target := queue_modifyMailbox h target loop fun _ => rfl
  isOpen target := isOpen_modifyMailbox h target loop fun _ => rfl
  reactions _ hr := hr
  journal := List.suffix_rfl

/-- Turning the use of a handle into a command is no traffic yet. -/
theorem commandOf (h : Hub) (target : LoopId) (now : StreamId) (a : HandleAction) :
    h.Quiet (h.commandOf target now a).2 := by
  cases a with
  | headers | data | frame | reset | goAway => exact refl h
  | ping n label | settings n label => exact watch h target .future label none
  | push s hs kind label =>
      have hreserve : h.Quiet (h.reserve target).2 := reserve h target
      simp only [Hub.commandOf]
      rcases hr : h.reserve target with ⟨_ | id, h'⟩
      · rw [hr] at hreserve
        exact hreserve.trans (watch h' target kind label none)
      · rw [hr] at hreserve
        exact hreserve.trans (watch h' target kind label (some id))
  | isClosed => exact record h target _

end Quiet

/-! ### The end of a write -/

/-- After the end of a write was entered there is no traffic, where the code that waits for it
sends nothing. -/
theorem quiet_resolve (hm : h.IsMute) (r : Resolution) : (h.log r).Quiet (h.resolve r) := by
  unfold resolve
  cases h.reactions.length with
  | zero => exact .refl _
  | succ depth =>
      unfold resolveWithin
      cases hreaction : h.reactionTo r.promise with
      | none => exact .refl _
      | some found =>
          have hmem : found.2 ∈ h.reactions := by
            unfold reactionTo at hreaction
            split at hreaction
            · cases hreaction
            · split at hreaction
              · cases hreaction
              · obtain ⟨reaction, hfind, rfl⟩ := Option.map_eq_some_iff.mp hreaction
                exact List.mem_of_find?_eq_some hfind
          -- The code that runs only asks, so that nothing else ends because of it.
          refine List.foldlRecOn (motive := fun g => (h.log r).Quiet g) found.2.uses _
            (.forget _ _) fun g hg u hu => ?_
          rw [hm found.2 hmem u hu]
          exact hg.trans (.record g _ _)

namespace Quiet

theorem resolve (hm : h.IsMute) (r : Resolution) : h.Quiet (h.resolve r) :=
  (log h r).trans (quiet_resolve hm r)

theorem abandonCommands (hm : h.IsMute) (cs : List Command) : h.Quiet (h.abandonCommands cs) := by
  induction cs generalizing h with
  | nil => exact refl h
  | cons c cs ih =>
      have hfirst : h.Quiet (h.abandon c.promise) := resolve hm _
      exact hfirst.trans (ih (hfirst.isMute hm))

/-- Dropping what was in a queue is no traffic, once the queue is gone. -/
theorem closeMailbox (hm : h.IsMute) (loop : LoopId) :
    (h.emptied loop).Quiet (h.closeMailbox loop) :=
  abandonCommands (show (h.emptied loop).IsMute from hm) _

end Quiet

/-- A command that is dropped has failed, whatever the code does that waits for it. -/
theorem hasFailed_abandon (h : Hub) (c : Command) : c.HasFailed (h.abandon c.promise) :=
  isKnown_resolve h c.promise.abandoned

theorem hasFailed_abandonCommands (h : Hub) {cs : List Command} :
    ∀ c ∈ cs, c.HasFailed (h.abandonCommands cs) := by
  induction cs generalizing h with
  | nil => exact fun _ hc => absurd hc List.not_mem_nil
  | cons c cs ih =>
      intro c' hc'
      rcases List.mem_cons.mp hc' with rfl | hc'
      · have hrest := (law_recalls (h.abandon c'.promise)).abandonCommands
          (.of (cs.map (·.promise) ++ []) (.refl _))
        exact hrest.isKnown (h.isKnown_resolve c'.promise.abandoned)
      · exact ih (h.abandon c.promise) c' hc'

/-- When the queue of a loop goes away the commands in it fail. -/
theorem hasFailed_closeMailbox (h : Hub) (loop : LoopId) :
    ∀ c ∈ (h.mailbox loop).queue, c.HasFailed (h.closeMailbox loop) :=
  (h.emptied loop).hasFailed_abandonCommands

/-! ### Sending -/

/-- The loop that code runs on, if it runs on one. -/
def origin (h : Hub) (offLoop : Bool) : Option LoopId :=
  if offLoop then none else h.scope.map (·.loop)

end Hub

/-- Where a command goes. -/
inductive Place where
  /-- The queue of the loop that runs now. -/
  | inline
  /-- The queue of the command's own loop. -/
  | queue
  /-- It is dropped, since there is no such queue any more. -/
  | nowhere
deriving DecidableEq, Repr

/-- Where a command of a loop goes that is sent from a loop or from outside of every loop. -/
def Place.of (origin : Option LoopId) (target : LoopId) (isOpen : Bool) : Place :=
  if origin = some target then .inline else if isOpen then .queue else .nowhere

theorem Place.of_eq_inline {origin : Option LoopId} {target : LoopId} {isOpen : Bool} :
    Place.of origin target isOpen = .inline ↔ origin = some target := by
  unfold Place.of
  by_cases h : origin = some target
  · simp [h]
  · cases isOpen <;> simp [h]

theorem Place.of_eq_queue {origin : Option LoopId} {target : LoopId} {isOpen : Bool} :
    Place.of origin target isOpen = .queue ↔ origin ≠ some target ∧ isOpen = true := by
  unfold Place.of
  by_cases h : origin = some target
  · simp [h]
  · cases isOpen <;> simp [h]

theorem Place.of_eq_nowhere {origin : Option LoopId} {target : LoopId} {isOpen : Bool} :
    Place.of origin target isOpen = .nowhere ↔ origin ≠ some target ∧ isOpen = false := by
  unfold Place.of
  by_cases h : origin = some target
  · simp [h]
  · cases isOpen <;> simp [h]

namespace Hub

variable {h : Hub}

/-- Sends a command, and tells whoever watches it if it does not get through. -/
def send (h : Hub) (target : LoopId) (offLoop : Bool) (c : Command) : Hub :=
  following resolve (h.dispatch target offLoop c)

/-- Where the hub puts a command. -/
def place (h : Hub) (target : LoopId) (offLoop : Bool) : Place :=
  Place.of (h.origin offLoop) target (h.isOpen target)

/-- A command that does not go inline goes to the queue of its loop, or is dropped. -/
theorem send_of_foreign {target : LoopId} {offLoop : Bool}
    (hforeign : h.origin offLoop ≠ some target) (c : Command) :
    h.send target offLoop c = following resolve (h.enqueue target c) := by
  unfold send dispatch
  unfold origin at hforeign
  cases offLoop with
  | true => rfl
  | false =>
      cases hscope : h.scope with
      | none => rfl
      | some s =>
          have hne : s.loop ≠ target := fun heq => hforeign (by simp [hscope, heq])
          simp only [if_neg hne]

theorem send_inline {target : LoopId} {offLoop : Bool}
    (hplace : h.place target offLoop = .inline) (c : Command) :
    ∃ waiting, h.scope = some ⟨target, waiting⟩ ∧
      h.send target offLoop c = { h with scope := some ⟨target, waiting ++ [c]⟩ } := by
  have horigin : h.origin offLoop = some target := Place.of_eq_inline.mp hplace
  unfold origin at horigin
  cases offLoop with
  | true => cases horigin
  | false =>
      obtain ⟨⟨loop, waiting⟩, hscope, hloop⟩ := Option.map_eq_some_iff.mp horigin
      obtain rfl : loop = target := hloop
      refine ⟨waiting, hscope, ?_⟩
      simp only [send, dispatch, hscope, if_true]
      rfl

theorem send_queue {target : LoopId} {offLoop : Bool}
    (hplace : h.place target offLoop = .queue) (c : Command) :
    h.isOpen target = true ∧
      h.send target offLoop c =
        h.modifyMailbox target fun m => { m with queue := m.queue ++ [c] } := by
  obtain ⟨hforeign, hopen⟩ := Place.of_eq_queue.mp hplace
  refine ⟨hopen, ?_⟩
  rw [send_of_foreign hforeign, enqueue, if_pos hopen]
  rfl

theorem send_nowhere {target : LoopId} {offLoop : Bool}
    (hplace : h.place target offLoop = .nowhere) (c : Command) :
    h.isOpen target = false ∧ h.send target offLoop c = h.abandon c.promise := by
  obtain ⟨hforeign, hshut⟩ := Place.of_eq_nowhere.mp hplace
  refine ⟨hshut, ?_⟩
  rw [send_of_foreign hforeign, enqueue, if_neg (ne_true_of_eq_false hshut)]
  rfl

theorem isMute_send (hm : h.IsMute) (target : LoopId) (offLoop : Bool) (c : Command) :
    (h.send target offLoop c).IsMute := by
  cases hplace : h.place target offLoop with
  | inline =>
      obtain ⟨_, -, hsend⟩ := send_inline hplace c
      rw [hsend]
      exact hm
  | queue =>
      rw [(send_queue hplace c).2]
      exact hm
  | nowhere =>
      rw [(send_nowhere hplace c).2]
      exact (Quiet.resolve hm _).isMute hm

/-- Sending a command does not make another loop run. -/
theorem scope_send (hm : h.IsMute) (target : LoopId) (offLoop : Bool) (c : Command) :
    (h.send target offLoop c).scope.map (·.loop) = h.scope.map (·.loop) := by
  cases hplace : h.place target offLoop with
  | inline =>
      obtain ⟨_, hscope, hsend⟩ := send_inline hplace c
      rw [hsend, hscope]
      rfl
  | queue =>
      rw [(send_queue hplace c).2]
      rfl
  | nowhere =>
      rw [(send_nowhere hplace c).2]
      exact congrArg _ (Quiet.resolve hm _).scope

/-- Whoever uses a handle sends one command, or there is no traffic. -/
theorem use_cases (hm : h.IsMute) (target : LoopId) (offLoop : Bool) (now : StreamId)
    (a : HandleAction) :
    (∃ h' c, h.Quiet h' ∧ h.use target offLoop now a = h'.send target offLoop c) ∨
      h.Quiet (h.use target offLoop now a) := by
  have hquiet : h.Quiet (h.commandOf target now a).2 := .commandOf h target now a
  unfold use useOnce
  generalize h.commandOf target now a = step at hquiet
  obtain ⟨c | r | _, h'⟩ := step
  · exact .inl ⟨h', c, hquiet, rfl⟩
  · exact .inr (hquiet.trans (.resolve (hquiet.isMute hm) r))
  · exact .inr hquiet

/-- Where no code that waits for writes sends anything, none will, whatever handles are used for. -/
theorem law_isMute : Law (fun _ => True) (Regardless IsMute) where
  good_of_faithful _ := trivial
  void hm := hm
  log {r _ h} _ hm := (Quiet.log h r).isMute hm
  forget label {_ h} hm := (Quiet.forget h label).isMute hm
  answered _ _ _ _ hm := hm
  issue _ _ _ _ _ _ hm := hm
  reserve _ _ _ hm := hm
  inline _ _ hm := hm
  queue _ _ hm := hm

end Hub

/-! ### Bridges that write -/

namespace Outlet

variable {κ : Type}

/-- A write is no traffic, whatever the codec does. -/
theorem mild_quiet (home : LoopId) {h : Hub} (hm : h.IsMute) :
    Mild fun o : Outlet κ => o.home = home ∧ h.Quiet o.hub where
  resolve {r _} _ hp := ⟨hp.1, hp.2.trans (.resolve (hp.2.isMute hm) r)⟩
  aside ha hp := ⟨hp.1, hp.2.trans (.aside _ ha)⟩
  codec _ _ hp := hp
  buffer f o _ hp := ⟨hp.1, hp.2.trans (.record o.hub o.home (.accepted f))⟩
  flush {o} hp := ⟨hp.1, hp.2.trans (.record o.hub o.home .flushed)⟩
  requestClose hp := hp
  leaveWord _ _ _ hp := hp

/-- No code that waits for writes sends anything after a write, if none did before. -/
theorem steady_isMute : Steady fun o : Outlet κ => o.hub.IsMute where
  hub _ := Hub.law_isMute
  aside {o h} ha hm := (Hub.Quiet.aside o.home ha).isMute hm
  codec _ _ hm := hm
  buffer _ _ _ hm := hm
  flush hm := hm
  requestClose hm := hm
  leaveWord _ _ _ hm := hm
  markInactive hm := hm
  take {o} hm := by
    obtain ⟨s, hs⟩ := o.hub.takeInline_eq
    rw [hs]
    exact hm

/-- Nothing that the bridge of a loop does calls the codec of another loop. -/
theorem steady_elsewhere {home other : LoopId} (hne : home ≠ other) (calls : List CodecCall) :
    Steady fun o : Outlet κ => o.home = home ∧ o.hub.codecCalls other = calls where
  hub o := (Hub.law_of_constant (o.home = home)).and (Hub.law_codecCalls other calls)
  aside {o h} ha hp := by
    refine ⟨hp.1, Eq.trans ?_ hp.2⟩
    cases ha with
    | @record e he =>
        have hnone : ∀ r ∈ [(⟨o.home, e⟩ : Record)], r.loop = other → r.entry.called? = none := by
          intro r hr hloop
          obtain rfl := List.mem_singleton.mp hr
          exact absurd (hp.1.symm.trans hloop) hne
        exact reported_append_of_none Entry.called? hnone
    | notice | meter | arrive | refer => rfl
  codec _ _ hp := hp
  buffer f o _ hp :=
    ⟨hp.1, (o.hub.codecCalls_record_of_none other (e := .accepted f) rfl).trans hp.2⟩
  flush {o} hp := ⟨hp.1, (o.hub.codecCalls_record_of_none other (e := .flushed) rfl).trans hp.2⟩
  requestClose hp := hp
  leaveWord _ _ _ hp := hp
  markInactive hp := hp
  take {o} hp := by
    obtain ⟨s, hs⟩ := o.hub.takeInline_eq
    rw [hs]
    exact hp

variable [Codec κ]

theorem quiet_foldl_perform {o : Outlet κ} (hm : o.hub.IsMute) (cs : List Command) :
    (cs.foldl perform o).home = o.home ∧ o.hub.Quiet (cs.foldl perform o).hub := by
  have M : Mild fun o' : Outlet κ => o'.home = o.home ∧ o.hub.Quiet o'.hub := mild_quiet o.home hm
  exact List.foldlRecOn (motive := fun o' : Outlet κ => o'.home = o.home ∧ o.hub.Quiet o'.hub) cs _
    ⟨rfl, .refl o.hub⟩ fun _ hp c _ => M.perform c hp

/-- Where no loop runs nothing waits inline. -/
theorem catchUp_of_none {o : Outlet κ} (h : o.hub.scope = none) : o.catchUp = o := by
  unfold catchUp
  cases o.hub.reactions.length <;> simp [catchUpWithin, Hub.takeInline, h]

/-- Catching up performs the commands that wait, one after the other, where the code that waits
for writes sends nothing. -/
theorem catchUp_of_isMute {o : Outlet κ} {loop : LoopId} {waiting : List Command}
    (hm : o.hub.IsMute) (hscope : o.hub.scope = some ⟨loop, waiting⟩) :
    o.catchUp = waiting.foldl perform { o with hub := { o.hub with scope := some ⟨loop, []⟩ } } := by
  have htake : o.hub.takeInline = (waiting, { o.hub with scope := some ⟨loop, []⟩ }) := by
    simp only [Hub.takeInline, hscope]
  unfold catchUp
  cases o.hub.reactions.length with
  | zero => simp only [catchUpWithin, htake]
  | succ depth =>
      simp only [catchUpWithin, htake]
      -- Nothing joins the queue while its commands are performed, so there is nothing to catch up.
      have idle (cs : List Command) : ∀ o' : Outlet κ, o'.hub.IsMute →
          o'.hub.scope = some ⟨loop, []⟩ →
          cs.foldl (fun o c => (catchUpWithin depth o).perform c) o' = cs.foldl perform o' := by
        induction cs with
        | nil => exact fun _ _ _ => rfl
        | cons c cs ih =>
            intro o' hm' hscope'
            have hquiet := (mild_quiet (κ := κ) o'.home hm').perform c ⟨rfl, .refl o'.hub⟩
            simp only [List.foldl_cons, catchUpWithin_of_idle hscope']
            exact ih _ (hquiet.2.isMute hm') (hquiet.2.scope.trans hscope')
      exact idle waiting _ hm rfl

end Outlet

end FrameBridge
