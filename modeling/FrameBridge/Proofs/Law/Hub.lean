import FrameBridge.Hub.Handle

/-!
# Laws of hubs

A law is a property of hubs that every use of a handle keeps, and everything that
callbacks bring about when a write ends.  Writes pass from hand to hand, so a law also
speaks of the promises that are under way: those that are in nobody's queue right now
because the code at work holds them.

* `Hub.Rule` lists what has to be shown: what becomes of a hub when a handle is used once, and when
  the end of a write is entered.
* `Hub.Rule.use` and `Hub.Rule.resolve` say that this is enough.
* `Hub.Law` takes the use of a handle apart into the few things that it comes down to, and is a
  rule.

Commands that wait in queues may be restricted to those that are `good`.
-/

namespace FrameBridge

/-- A command whose promise reports a promised stream promises that very stream. -/
def Command.IsFaithful (c : Command) : Prop :=
  ∀ w id, c.promise = .watched w → w.promised = some id →
    ∃ s hs, c = .pushPromise s id hs (.watched w)

theorem Command.IsFaithful.of_void {c : Command} (h : c.promise = .void) : c.IsFaithful := by
  intro w id hw
  rw [h] at hw
  cases hw

/-- A command whose promise reports no promised stream is faithful. -/
theorem Command.IsFaithful.of_promised_none {c : Command} {w : Watch} (h : c.promise = .watched w)
    (hw : w.promised = none) : c.IsFaithful := by
  intro w' id hw' hid
  rw [h] at hw'
  cases hw'
  rw [hw] at hid
  cases hid

/-- A property of states, whatever promises are under way. -/
def Regardless {α : Type} (p : α → Prop) (_ : List Promise) (a : α) : Prop := p a

theorem Regardless.of {α : Type} {p : α → Prop} {a : α} (ps : List Promise) (h : p a) :
    Regardless p ps a := h

/-- Whether an entry of the journal is one that the use of a handle may leave by itself. -/
def Entry.isEcho : Entry → Bool
  | .answered _ | .resolved _ (.error _) => true
  | .codec _ | .accepted _ | .flushed | .created | .handedOver | .callback _ | .hook .. | .asked _
  | .resolved _ (.ok _) | .innerDone => false

namespace Hub

/-- The outcome of a write that did not get through. -/
def Failed (r : Resolution) : Prop := ∃ e, r.outcome = .error e

/-- What has to be shown of a property of hubs and of the promises under way. -/
structure Law (good : Command → Prop) (H : List Promise → Hub → Prop) : Prop where
  good_of_faithful : ∀ {c : Command}, c.IsFaithful → good c
  void : ∀ {ps h}, H ps h → H (.void :: ps) h
  log : ∀ {r ps h}, Failed r → H (r.promise :: ps) h → H ps (h.log r)
  forget : ∀ label {ps h}, H ps h → H ps (h.forget label)
  answered : ∀ loop a {ps h}, H ps h → H ps (h.record loop (.answered a))
  issue : ∀ home kind label promised {ps h}, H ps h →
    H (.watched (h.watch home kind label promised).1 :: ps) (h.watch home kind label promised).2
  reserve : ∀ loop {ps h}, H ps h → H ps (h.reserve loop).2
  inline : ∀ {c s ps h}, good c → h.scope = some s → H (c.promise :: ps) h →
    H ps { h with scope := some { s with inline := s.inline ++ [c] } }
  queue : ∀ {c loop ps h}, good c → h.isOpen loop → H (c.promise :: ps) h →
    H ps (h.modifyMailbox loop fun m => { m with queue := m.queue ++ [c] })

/-- The promises of the writes that an operation ended. -/
def promises (r : Option Resolution) : List Promise := (r.map (·.promise)).toList

theorem failed_of_mem_enqueue {h : Hub} {loop : LoopId} {c : Command} {r : Resolution}
    (hr : (h.enqueue loop c).2 = some r) : Failed r := by
  unfold enqueue at hr
  split at hr
  · cases hr
  · cases hr
    exact ⟨_, rfl⟩

theorem failed_of_mem_dispatch {h : Hub} {loop : LoopId} {offLoop : Bool} {c : Command}
    {r : Resolution} (hr : (h.dispatch loop offLoop c).2 = some r) : Failed r := by
  unfold dispatch at hr
  split at hr
  · split at hr
    · cases hr
    · exact failed_of_mem_enqueue hr
  · exact failed_of_mem_enqueue hr

/-- Using a handle ends a write with an error if at all. -/
theorem failed_of_mem_useOnce {h : Hub} {target : LoopId} {offLoop : Bool} {now : StreamId}
    {a : HandleAction} {r : Resolution} (hr : (h.useOnce target offLoop now a).2 = some r) :
    Failed r := by
  unfold useOnce at hr
  split at hr
  · exact failed_of_mem_dispatch hr
  · rename_i r' h' hcommand
    cases hr
    -- Only a push promise is refused, and only because no identifier is left.
    unfold commandOf at hcommand
    split at hcommand
    case h_8 =>
      split at hcommand
      · cases hcommand
      · cases hcommand
        exact ⟨_, rfl⟩
    all_goals cases hcommand
  · cases hr

/-- What has to be shown of a property of hubs and of the promises under way, where it matters what
one use of a handle brings about as a whole. -/
structure Rule (H : List Promise → Hub → Prop) : Prop where
  log : ∀ {r ps h}, Failed r → H (r.promise :: ps) h → H ps (h.log r)
  forget : ∀ label {ps h}, H ps h → H ps (h.forget label)
  useOnce : ∀ target offLoop now a {ps h}, H ps h →
    H (promises (h.useOnce target offLoop now a).2 ++ ps) (h.useOnce target offLoop now a).1

namespace Rule

variable {H : List Promise → Hub → Prop}

theorem following_useOnce (R : Rule H) {f : Hub → Resolution → Hub} (target : LoopId)
    (offLoop : Bool) (now : StreamId) (a : HandleAction) {ps : List Promise} {h : Hub}
    (hf : ∀ {r h}, Failed r → H (r.promise :: ps) h → H ps (f h r)) (hH : H ps h) :
    H ps (following f (h.useOnce target offLoop now a)) := by
  have huse := R.useOnce target offLoop now a hH
  rcases hu : h.useOnce target offLoop now a with ⟨h', _ | r⟩
  · rw [hu] at huse
    exact huse
  · rw [hu] at huse
    exact hf (failed_of_mem_useOnce (congrArg Prod.snd hu)) huse

/-- A rule that holds once the end of a write was entered holds after the code that
waited for it. -/
theorem resolveWithin_of_log (R : Rule H) (depth : Nat) {r : Resolution}
    {ps : List Promise} {h : Hub} (hlog : H ps (h.log r)) :
    H ps (h.resolveWithin depth r) := by
  induction depth generalizing r h with
  | zero => exact hlog
  | succ depth ih =>
      unfold Hub.resolveWithin
      split
      · exact hlog
      · rename_i home reaction hreaction
        -- The code runs as often as there are uses, and each one may end another write first.
        refine List.foldlRecOn reaction.uses _ (R.forget _ hlog) ?_
        intro h hH u hu
        exact R.following_useOnce _ u.offLoop .connection u.action
          (fun hr hH => ih (R.log hr hH)) hH

/-- A rule that holds once the end of a write was entered holds after the write was
resolved. -/
theorem resolve_of_log (R : Rule H) {r : Resolution} {ps : List Promise} {h : Hub}
    (hlog : H ps (h.log r)) : H ps (h.resolve r) :=
  R.resolveWithin_of_log _ hlog

theorem resolve (R : Rule H) {r : Resolution} {ps : List Promise} {h : Hub}
    (hr : Failed r) (hH : H (r.promise :: ps) h) : H ps (h.resolve r) :=
  R.resolve_of_log (R.log hr hH)

theorem resolveAll (R : Rule H) {rs : List Resolution} {ps : List Promise} {h : Hub}
    (hrs : ∀ r ∈ rs, Failed r) (hH : H (rs.map (·.promise) ++ ps) h) :
    H ps (h.resolveAll rs) := by
  induction rs generalizing h with
  | nil => exact hH
  | cons r rs ih =>
      have hr : Failed r := hrs r List.mem_cons_self
      have hrest : ∀ r' ∈ rs, Failed r' := fun r' hr' => hrs r' (List.mem_cons_of_mem r hr')
      exact ih hrest (R.resolve hr hH)

theorem abandon (R : Rule H) {p : Promise} {ps : List Promise} {h : Hub}
    (hH : H (p :: ps) h) : H ps (h.abandon p) :=
  R.resolve ⟨_, rfl⟩ hH

theorem abandonCommands (R : Rule H) {cs : List Command} {ps : List Promise} {h : Hub}
    (hH : H (cs.map (·.promise) ++ ps) h) : H ps (h.abandonCommands cs) := by
  induction cs generalizing h with
  | nil => exact hH
  | cons c cs ih => exact ih (R.abandon hH)

theorem use (R : Rule H) (target : LoopId) (offLoop : Bool) (now : StreamId)
    (a : HandleAction) {ps : List Promise} {h : Hub} (hH : H ps h) :
    H ps (h.use target offLoop now a) :=
  R.following_useOnce target offLoop now a R.resolve hH

end Rule

namespace Law

variable {good : Command → Prop} {H : List Promise → Hub → Prop}

theorem dispatch (L : Law good H) {loop : LoopId} {offLoop : Bool} {c : Command}
    {ps : List Promise} {h : Hub} (hc : good c) (hH : H (c.promise :: ps) h) :
    H (promises (h.dispatch loop offLoop c).2 ++ ps) (h.dispatch loop offLoop c).1 := by
  have henqueue : H (promises (h.enqueue loop c).2 ++ ps) (h.enqueue loop c).1 := by
    unfold Hub.enqueue
    split
    · rename_i hopen
      exact L.queue hc hopen hH
    · exact hH
  unfold Hub.dispatch
  split
  · rename_i s hscope
    split
    · exact L.inline hc hscope hH
    · exact henqueue
  · exact henqueue

/-- A law of hubs holds after a handle was used, with a write that thereby ended under way. -/
theorem useOnce (L : Law good H) (target : LoopId) (offLoop : Bool) (now : StreamId)
    (a : HandleAction) {ps : List Promise} {h : Hub} (hH : H ps h) :
    H (promises (h.useOnce target offLoop now a).2 ++ ps)
      (h.useOnce target offLoop now a).1 := by
  -- Writes that nobody watches put nothing of anybody at stake.
  have unwatched {c : Command} (hvoid : c.promise = .void) :
      H (promises (h.dispatch target offLoop c).2 ++ ps) (h.dispatch target offLoop c).1 := by
    apply L.dispatch (L.good_of_faithful (.of_void hvoid))
    rw [hvoid]
    exact L.void hH
  cases a with
  | headers s hs ends => exact unwatched rfl
  | data s d ends => exact unwatched rfl
  | frame s t f d => exact unwatched rfl
  | reset s c => exact unwatched rfl
  | goAway c last d => exact unwatched rfl
  | ping n label =>
      have hissue := L.issue target .future label none hH
      exact L.dispatch (L.good_of_faithful (.of_promised_none rfl rfl)) hissue
  | settings s label =>
      have hissue := L.issue target .future label none hH
      exact L.dispatch (L.good_of_faithful (.of_promised_none rfl rfl)) hissue
  | push s hs kind label =>
      have hreserve := L.reserve target hH
      simp only [Hub.useOnce, Hub.commandOf]
      rcases hr : h.reserve target with ⟨_ | id, h'⟩
      · rw [hr] at hreserve
        exact L.issue target kind label none hreserve
      · rw [hr] at hreserve
        refine L.dispatch (L.good_of_faithful ?_) (L.issue target kind label (some id) hreserve)
        intro w' id' hw hid
        cases hw
        cases hid
        exact ⟨_, _, rfl⟩
  | isClosed => exact L.answered target _ hH

/-- What every part of a use keeps the whole use keeps. -/
theorem rule (L : Law good H) : Rule H where
  log := L.log
  forget := L.forget
  useOnce target offLoop now a _ _ hH := L.useOnce target offLoop now a hH

theorem resolve_of_log (L : Law good H) {r : Resolution} {ps : List Promise} {h : Hub}
    (hlog : H ps (h.log r)) : H ps (h.resolve r) :=
  L.rule.resolve_of_log hlog

theorem resolve (L : Law good H) {r : Resolution} {ps : List Promise} {h : Hub}
    (hr : Failed r) (hH : H (r.promise :: ps) h) : H ps (h.resolve r) :=
  L.rule.resolve hr hH

theorem resolveAll (L : Law good H) {rs : List Resolution} {ps : List Promise} {h : Hub}
    (hrs : ∀ r ∈ rs, Failed r) (hH : H (rs.map (·.promise) ++ ps) h) :
    H ps (h.resolveAll rs) :=
  L.rule.resolveAll hrs hH

/-- A law that holds once the end of any write was entered holds after any writes were resolved. -/
theorem resolveAll_of_log (L : Law good H) {ps : List Promise}
    (hlog : ∀ r {h}, H ps h → H ps (h.log r)) (rs : List Resolution) {h : Hub} (hH : H ps h) :
    H ps (h.resolveAll rs) :=
  List.foldlRecOn rs _ hH fun _ hH r _ => L.resolve_of_log (hlog r hH)

theorem abandon (L : Law good H) {p : Promise} {ps : List Promise} {h : Hub}
    (hH : H (p :: ps) h) : H ps (h.abandon p) :=
  L.rule.abandon hH

theorem abandonCommands (L : Law good H) {cs : List Command} {ps : List Promise} {h : Hub}
    (hH : H (cs.map (·.promise) ++ ps) h) : H ps (h.abandonCommands cs) :=
  L.rule.abandonCommands hH

theorem use (L : Law good H) (target : LoopId) (offLoop : Bool) (now : StreamId)
    (a : HandleAction) {ps : List Promise} {h : Hub} (hH : H ps h) :
    H ps (h.use target offLoop now a) :=
  L.rule.use target offLoop now a hH

end Law

/-- Two laws of hubs are one. -/
theorem Law.and {good : Command → Prop} {H H' : List Promise → Hub → Prop} (L : Law good H)
    (L' : Law (fun _ => True) H') : Law good fun ps h => H ps h ∧ H' ps h where
  good_of_faithful := L.good_of_faithful
  void hH := ⟨L.void hH.1, L'.void hH.2⟩
  log hr hH := ⟨L.log hr hH.1, L'.log hr hH.2⟩
  forget label _ _ hH := ⟨L.forget label hH.1, L'.forget label hH.2⟩
  answered loop a _ _ hH := ⟨L.answered loop a hH.1, L'.answered loop a hH.2⟩
  issue home kind label promised _ _ hH :=
    ⟨L.issue home kind label promised hH.1, L'.issue home kind label promised hH.2⟩
  reserve loop _ _ hH := ⟨L.reserve loop hH.1, L'.reserve loop hH.2⟩
  inline hc hscope hH := ⟨L.inline hc hscope hH.1, L'.inline trivial hscope hH.2⟩
  queue hc hopen hH := ⟨L.queue hc hopen hH.1, L'.queue trivial hopen hH.2⟩

/-- What is not about the hub at all is a law of hubs. -/
theorem law_of_constant (p : Prop) : Law (fun _ => True) (Regardless fun _ => p) where
  good_of_faithful _ := trivial
  void h := h
  log _ h := h
  forget _ _ _ h := h
  answered _ _ _ _ h := h
  issue _ _ _ _ _ _ h := h
  reserve _ _ _ h := h
  inline _ _ h := h
  queue _ _ h := h

/-- Handles and callbacks leave nothing in the journal but answers and writes that failed, and
watches are only handed out. -/
theorem law_records {p : List Watch → List Record → Prop}
    (hissue : ∀ w ws j, p ws j → p (w :: ws) j)
    (hecho : ∀ r ws j, r.entry.isEcho → p ws j → p ws (r :: j)) :
    Law (fun _ => True) (Regardless fun h => p h.issued h.journal) where
  good_of_faithful _ := trivial
  void hH := hH
  log {r _ h} hr hH := by
    obtain ⟨e, he⟩ := hr
    unfold log
    split
    · exact hH
    · refine hecho _ _ _ ?_ hH
      rw [he]
      rfl
  forget _ _ _ hH := hH
  answered _ _ _ _ hH := hecho _ _ _ rfl hH
  issue _ _ _ _ _ _ hH := hissue _ _ _ hH
  reserve _ _ _ hH := hH
  inline _ _ hH := hH
  queue _ _ hH := hH

theorem law_journal {p : List Record → Prop} (hp : ∀ r j, r.entry.isEcho → p j → p (r :: j)) :
    Law (fun _ => True) (Regardless fun h => p h.journal) :=
  law_records (p := fun _ j => p j) (fun _ _ _ h => h) fun r _ j => hp r j

/-- Taking the commands queued inline changes the scope alone. -/
theorem takeInline_eq (h : Hub) : ∃ s, h.takeInline.2 = { h with scope := s } := by
  unfold takeInline
  split
  · exact ⟨h.scope, rfl⟩
  · exact ⟨some _, rfl⟩

/-- Entering a loop changes the scope alone. -/
theorem enter_eq (h : Hub) (loop : LoopId) : ∃ s, h.enter loop = { h with scope := s } := by
  unfold enter
  split
  · exact ⟨h.scope, rfl⟩
  · exact ⟨some { loop }, rfl⟩

@[simp] theorem scope_log (h : Hub) (r : Resolution) : (h.log r).scope = h.scope := by
  unfold log
  split <;> rfl

/-! ### Mailboxes -/

theorem mailbox_modifyMailbox_of_ne (h : Hub) {loop target : LoopId} (hne : loop ≠ target)
    (f : Mailbox → Mailbox) : (h.modifyMailbox target f).mailbox loop = h.mailbox loop := by
  have hindex : target.index ≠ loop.index := fun heq => hne (congrArg LoopId.mk heq.symm)
  simp [mailbox, modifyMailbox, hindex]

theorem isOpen_modifyMailbox_of_ne (h : Hub) {loop target : LoopId} (hne : loop ≠ target)
    (f : Mailbox → Mailbox) : (h.modifyMailbox target f).isOpen loop = h.isOpen loop := by
  have hindex : target.index ≠ loop.index := fun heq => hne (congrArg LoopId.mk heq.symm)
  simp [isOpen, modifyMailbox, hindex]

/-- What a change does to the mailbox of a loop that exists. -/
theorem mailbox_modifyMailbox {h : Hub} {loop : LoopId} (hloop : loop.index < h.mailboxes.length)
    (f : Mailbox → Mailbox) : (h.modifyMailbox loop f).mailbox loop = f (h.mailbox loop) := by
  simp [mailbox, modifyMailbox, hloop]

/-- What a change leaves alone is afterwards the same in the mailboxes of all loops. -/
theorem read_modifyMailbox {α : Type} (h : Hub) (loop target : LoopId) {f : Mailbox → Mailbox}
    (read : Mailbox → α) (hf : ∀ m, read (f m) = read m) :
    read ((h.modifyMailbox target f).mailbox loop) = read (h.mailbox loop) := by
  simp only [mailbox, modifyMailbox, List.getElem?_modify]
  cases h.mailboxes[loop.index]? with
  | none => rfl
  | some m =>
      split
      · exact hf m
      · rfl

theorem queue_modifyMailbox (h : Hub) (loop target : LoopId) {f : Mailbox → Mailbox}
    (hf : ∀ m, (f m).queue = m.queue) :
    ((h.modifyMailbox target f).mailbox loop).queue = (h.mailbox loop).queue :=
  h.read_modifyMailbox loop target (·.queue) hf

theorem isOpen_modifyMailbox (h : Hub) (loop target : LoopId) {f : Mailbox → Mailbox}
    (hf : ∀ m, (f m).isOpen = m.isOpen) :
    (h.modifyMailbox target f).isOpen loop = h.isOpen loop := by
  simp only [isOpen, modifyMailbox, List.getElem?_modify]
  cases h.mailboxes[loop.index]? with
  | none => rfl
  | some m =>
      split
      · exact hf m
      · rfl

/-- Only a loop that exists takes commands. -/
theorem index_lt_of_isOpen {h : Hub} {loop : LoopId} (hopen : h.isOpen loop = true) :
    loop.index < h.mailboxes.length := by
  unfold isOpen at hopen
  cases hm : h.mailboxes[loop.index]? with
  | none =>
      rw [hm] at hopen
      cases hopen
  | some m => exact (List.getElem?_eq_some_iff.mp hm).1

/-- Only a loop that exists has commands in its queue. -/
theorem index_lt_of_queue {h : Hub} {loop : LoopId} {c : Command} {rest : List Command}
    (hqueue : (h.mailbox loop).queue = c :: rest) : loop.index < h.mailboxes.length := by
  cases hm : h.mailboxes[loop.index]? with
  | none =>
      rw [mailbox, hm] at hqueue
      cases hqueue
  | some m => exact (List.getElem?_eq_some_iff.mp hm).1

/-- Taking the oldest command out of a queue changes that queue alone. -/
theorem eq_of_nextCommand {h h' : Hub} {loop : LoopId} {c : Command}
    (hnext : h.nextCommand loop = some (c, h')) :
    ∃ rest, (h.mailbox loop).queue = c :: rest ∧
      h' = h.modifyMailbox loop fun m => { m with queue := rest } := by
  unfold nextCommand at hnext
  split at hnext
  · cases hnext
  · rename_i c' rest hqueue
    cases hnext
    exact ⟨rest, hqueue, rfl⟩

/-- A hub once the queue of a loop is gone, before what was in it is dropped. -/
def emptied (h : Hub) (loop : LoopId) : Hub :=
  h.modifyMailbox loop fun m => { m with queue := [], isOpen := false }

theorem isOpen_emptied (h : Hub) (loop : LoopId) : (h.emptied loop).isOpen loop = false := by
  simp only [emptied, isOpen, modifyMailbox, List.getElem?_modify]
  cases h.mailboxes[loop.index]? <;> rfl

theorem queue_emptied (h : Hub) (loop : LoopId) : ((h.emptied loop).mailbox loop).queue = [] := by
  simp only [emptied, mailbox, modifyMailbox, List.getElem?_modify]
  cases h.mailboxes[loop.index]? <;> rfl

/-- Nothing that handles do opens a queue or closes it. -/
theorem law_isOpen (loop : LoopId) (b : Bool) :
    Law (fun _ => True) (Regardless fun h => h.isOpen loop = b) where
  good_of_faithful _ := trivial
  void hH := hH
  log {r _ h} _ hH := by
    unfold log
    split <;> exact hH
  forget _ _ _ hH := hH
  answered _ _ _ _ hH := hH
  issue _ _ _ _ _ _ hH := hH
  reserve target _ h hH := by
    have hsame := isOpen_modifyMailbox h loop target
      (f := fun m => { m with streams := (h.mailbox target).streams.reserve.2 }) fun _ => rfl
    exact hsame.trans hH
  inline _ _ hH := hH
  queue {c target _ h} _ _ hH := by
    have hsame := isOpen_modifyMailbox h loop target
      (f := fun m => { m with queue := m.queue ++ [c] }) fun _ => rfl
    exact hsame.trans hH

/-- A queue that went away is gone. -/
theorem isOpen_closeMailbox (h : Hub) (loop : LoopId) :
    (h.closeMailbox loop).isOpen loop = false :=
  (law_isOpen loop false).abandonCommands (.of (_ ++ []) (isOpen_emptied h loop))

/-- Where no loop runs no use of a handle starts one. -/
theorem law_scope_none : Law (fun _ => True) (Regardless (·.scope = none)) where
  good_of_faithful _ := trivial
  void h := h
  log {r _ h} _ hnone := (scope_log h r).trans hnone
  forget _ _ _ h := h
  answered _ _ _ _ h := h
  issue _ _ _ _ _ _ h := h
  reserve _ _ _ h := h
  inline _ hscope hnone := by
    have hcontra := hnone.symm.trans hscope
    cases hcontra
  queue _ _ h := h

end Hub

end FrameBridge
