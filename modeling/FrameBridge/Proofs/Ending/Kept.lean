import FrameBridge.Proofs.Counters.Run
import FrameBridge.Proofs.Ending.Work
import FrameBridge.Proofs.Entry.Stance

/-!
# What a loop keeps while it works

Work keeps a bridge where its application has it (`Turn.Works.active`), keeps its state true to its
channel (`Turn.Works.upright`), changes nothing about the loops that run (`Turn.Works.running`), and
serves the queue from its front while commands come in behind (`Turn.Works.queue`).
-/

namespace FrameBridge

/-! ### Queues -/

/-- Whoever uses handles, and whatever writes end, commands come into a queue behind those that are
there. -/
theorem Hub.law_queue (loop : LoopId) (waiting : List Command) :
    Law (fun _ => True) (Regardless fun h => waiting <+: (h.mailbox loop).queue) where
  good_of_faithful _ := trivial
  void h := h
  log {r _ h} _ hq := by
    unfold log
    split <;> exact hq
  forget _ _ _ hq := hq
  answered _ _ _ _ hq := hq
  issue _ _ _ _ _ _ hq := hq
  reserve target _ h hq := by
    have hsame := queue_modifyMailbox h loop target
      (f := fun m => { m with streams := (h.mailbox target).streams.reserve.2 }) fun _ => rfl
    exact (congrArg (waiting <+: ·) hsame).mpr hq
  inline _ _ hq := hq
  queue {c target _ h} _ hopen hq := by
    show waiting <+: ((h.modifyMailbox target _).mailbox loop).queue
    by_cases hloop : loop = target
    · subst hloop
      rw [mailbox_modifyMailbox (index_lt_of_isOpen hopen)]
      exact hq.trans (List.prefix_append _ _)
    · rw [mailbox_modifyMailbox_of_ne h hloop]
      exact hq

theorem Hub.queue_log (h : Hub) (r : Resolution) (loop : LoopId) :
    ((h.log r).mailbox loop).queue = (h.mailbox loop).queue := by
  unfold log
  split <;> rfl

/-- Nothing that a bridge does takes commands out of a queue. -/
theorem Outlet.steady_queue {κ : Type} (loop : LoopId) (waiting : List Command) :
    Outlet.Steady fun o : Outlet κ => waiting <+: (o.hub.mailbox loop).queue where
  hub _ := Hub.law_queue loop waiting
  aside {o h} ha hq := by
    rw [Hub.mailbox, ha.mailboxes]
    exact hq
  codec _ _ hq := hq
  buffer _ _ _ hq := hq
  flush hq := hq
  requestClose hq := hq
  leaveWord _ _ _ hq := hq
  markInactive hq := hq
  take {o} hq := by
    obtain ⟨scope, hscope⟩ := o.hub.takeInline_eq
    rw [hscope]
    exact hq

namespace Turn

variable {κ σ δ : Type}

/-- The commands in the queue of the bridge's loop. -/
def queue (t : Turn κ σ δ) : List Command := (t.hub.mailbox t.bridge.id).queue

theorem queue_eq_of_next {t : Turn κ σ δ} {c : Command} {hub : Hub}
    (h : t.hub.nextCommand t.bridge.id = some (c, hub)) :
    t.queue = c :: Turn.queue { t with hub } := by
  obtain ⟨rest, hqueue, rfl⟩ := Hub.eq_of_nextCommand h
  have hindex := Hub.index_lt_of_queue hqueue
  simp only [queue, Hub.mailbox_modifyMailbox hindex]
  exact hqueue

variable [Codec κ] [Connection σ] [Decoder δ] {rounds : Nat} {cs : List Command}
  {t t' : Turn κ σ δ}

/-- The number of a bridge and the gauge of the loops that run are the same after every move. -/
theorem running_move (rounds : Nat) (m : Move) (t : Turn κ σ δ) :
    (t.move rounds m).state.bridge.id = t.bridge.id ∧
      (t.move rounds m).state.hub.metrics.running = t.hub.metrics.running := by
  have hkept : t.HasSurplus t.bridge.id (t.hub.tally t.bridge.id).surplus := ⟨rfl, rfl⟩
  obtain ⟨hid, hsurplus⟩ := (accounts_move rounds m hkept).surplus
  refine ⟨hid, (congrArg Surplus.running hsurplus).trans ?_⟩
  split <;> rfl

/-- Commands come into the queue during a move, and none is taken out. -/
theorem queue_move (rounds : Nat) (m : Move) (t : Turn κ σ δ) :
    t.queue <+: (t.move rounds m).state.queue := by
  have hkept := (Outlet.steady_queue t.bridge.id t.queue).move (fun _ _ hq => hq) rounds m
    (t := t) List.prefix_rfl
  rw [queue, queue, (running_move rounds m t).1]
  exact hkept

namespace Works

/-- Work leaves the gauge of the loops that run as it is. -/
theorem running (h : t.Works rounds cs t') :
    t'.bridge.id = t.bridge.id ∧ t'.hub.metrics.running = t.hub.metrics.running := by
  induction h with
  | refl => exact ⟨rfl, rfl⟩
  | notice n _ ih | take _ ih => exact ih
  | @enter _ t' e _ _ _ _ ih =>
      obtain ⟨hid, hrunning⟩ := running_move rounds (.enter e) t'
      exact ⟨hid.trans ih.1, hrunning.trans ih.2⟩
  | @serve _ t' c hub hnext _ _ ih =>
      have hgauge : hub.metrics.running = t'.hub.metrics.running := by
        obtain ⟨rest, -, rfl⟩ := Hub.eq_of_nextCommand hnext
        rfl
      obtain ⟨hid, hrunning⟩ := running_move rounds (.apply c) { t' with hub }
      exact ⟨hid.trans ih.1, hrunning.trans (hgauge.trans ih.2)⟩
  | @resolve _ t' rs _ ih =>
      refine ⟨ih.1, ?_⟩
      have L := Hub.law_tally t.bridge.id (·.running = t.hub.metrics.running)
      refine L.resolveAll_of_log (fun r {h} hr => ?_) rs (.of [] ih.2)
      exact (congrArg Tally.running (h.tally_log r t.bridge.id)).trans hr

/-- Work serves the queue from its front, while commands come in behind. -/
theorem queue (h : t.Works rounds cs t') : t.queue <+: cs ++ t'.queue := by
  induction h with
  | refl => exact List.prefix_rfl
  | notice n _ ih | take _ ih => exact ih
  | @enter _ t' e _ _ _ _ ih =>
      exact ih.trans ((List.prefix_append_right_inj _).mpr (queue_move rounds (.enter e) t'))
  | @serve cs t' c hub hnext _ _ ih =>
      rw [queue_eq_of_next hnext] at ih
      have hmore : cs ++ c :: Turn.queue { t' with hub } <+:
          cs ++ c :: (Turn.apply rounds { t' with hub } c).state.queue :=
        (List.prefix_append_right_inj _).mpr
          ((List.prefix_cons_inj c).mpr (queue_move rounds (.apply c) { t' with hub }))
      rw [List.append_assoc]
      exact ih.trans hmore
  | @resolve _ t' rs _ ih =>
      have L := Hub.law_queue t'.bridge.id t'.queue
      refine ih.trans ((List.prefix_append_right_inj _).mpr ?_)
      refine L.resolveAll_of_log (fun r {h} hr => ?_) rs (.of [] List.prefix_rfl)
      exact (congrArg (t'.queue <+: ·) (h.queue_log r t'.bridge.id)).mpr hr

/-- Work keeps the state of a bridge true to its channel. -/
theorem upright (h : t.Works rounds cs t') (ht : t.bridge.Upright) : t'.bridge.Upright := by
  induction h with
  | refl => exact ht
  | notice _ _ ih | resolve _ _ ih => exact ih
  | @enter _ t' e _ _ _ _ ih => exact (course_move rounds t' (.enter e)).upright ih
  | @serve _ t' c hub _ _ _ ih =>
      exact (course_move rounds { t' with hub } (.apply c)).upright ih
  | take _ ih => exact ih.takeFlushed

/-- Work keeps a bridge active. -/
theorem active {start : View} (hnew : start.IsNew) (hprompt : Connection.IsPrompt σ)
    (h : t.Works rounds cs t') (hactive : View.Active start t.view) :
    View.Active start t'.view := by
  induction h with
  | refl => exact hactive
  | notice n _ ih | take _ ih => exact ih
  | enter he _ hend _ ih => exact ((steady_active hnew hprompt).enterBy rounds he ih).1 hend
  | @serve _ t' c hub hnext hend _ ih =>
      have htaken : View.Active start (Turn.view { t' with hub }) := by
        obtain ⟨rest, -, rfl⟩ := Hub.eq_of_nextCommand hnext
        exact ih
      exact ((steady_active hnew hprompt).move rounds (m := .apply c) nofun htaken).1 hend
  | @resolve _ t' rs _ ih =>
      have hstory : (t'.hub.resolveAll rs).story t'.bridge.id = t'.view.story :=
        (Hub.law_story t'.bridge.id (· = t'.view.story)).resolveAll_of_log
          (fun r {h} hr => (h.story_log r t'.bridge.id).trans hr) rs (.of [] rfl)
      rw [view_withHub hstory]
      exact ih

end Works

end Turn

end FrameBridge
