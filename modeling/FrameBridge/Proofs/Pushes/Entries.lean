import FrameBridge.Proofs.Law.Turn
import FrameBridge.Proofs.Pushes.Writes

/-!
# Entries on course

Every entry of a bridge leaves its push promises on course, as long as the application leaves the
numbers of promised streams to the bridge.  A command that is applied comes out of the queue, so
its number is the smallest of those that wait there.
-/

namespace FrameBridge

theorem Entry.promised?_of_isReport {e : Entry} (h : e.isReport) : e.promised? = none := by
  cases e <;> first | rfl | cases h

namespace Outlet.OnCourse

variable {κ : Type} {applied held : List Nat} {o : Outlet κ}

/-- A loop is entered from outside. -/
theorem enter (h : OnCourse applied held [] o) (hscope : o.hub.scope = none) :
    OnCourse applied held [] { o with hub := o.hub.enter o.home } ∧
      ((o.hub.enter o.home).ledger o.home).own = [] := by
  have hentered : o.hub.enter o.home = { o.hub with scope := some { loop := o.home } } := by
    simp [Hub.enter, Hub.isCurrent, hscope]
  have hledger : (o.hub.enter o.home).ledger o.home = o.hub.ledger o.home := by
    rw [hentered]
    simp [Hub.ledger, Hub.inline, Hub.mailbox, hscope]
  obtain ⟨hhome, sent, hsent, hturn⟩ := h
  refine ⟨⟨⟨?_, ?_⟩, sent, ?_, ?_⟩, ?_⟩
  · rw [hentered]
    exact hhome.valid
  · rw [hentered]
    intro s hs
    cases hs
    rfl
  · rw [hentered]
    exact hsent
  · simp only [prospects_nil, hledger] at hturn ⊢
    exact hturn
  · rw [hledger]
    exact Hub.own_of_outside hscope o.home

/-- The scope of the loop is left, and what still waits inline is dropped. -/
theorem leave (h : OnCourse applied held [] o) (loop : LoopId) :
    OnCourse applied held [] { o with hub := o.hub.leave loop none } := by
  have htaken : OnCourse applied held []
      { o with hub := { o.hub.takeInline.2 with scope := none } } := by
    obtain ⟨hhome, sent, hsent, hturn⟩ := h.take.1.forget
    have hledger : ({ o.hub.takeInline.2 with scope := none } : Hub).ledger o.home =
        o.hub.takeInline.2.ledger o.home := by
      have hown := congrArg Ledger.own (Hub.ledger_takeInline h.isHome).2
      simp only [Hub.ledger] at hown ⊢
      rw [hown]
      rfl
    refine ⟨⟨hhome.valid, fun _ hs => by cases hs⟩, sent, hsent, ?_⟩
    simp only [prospects_nil, hledger] at hturn ⊢
    exact hturn
  exact (rule o).abandonCommands (.of (_ ++ []) htaken)

/-- The oldest command that was taken out of the queue has its turn. -/
theorem apply {c : Command} (h : OnCourse applied (numbersOf [c] ++ held) [] o)
    (hcaught : (o.hub.ledger o.home).own = []) :
    OnCourse (applied ++ numbersOf [c]) held [c] o := by
  obtain ⟨hhome, sent, hsent, hturn⟩ := h
  refine ⟨hhome, sent, hsent, ?_⟩
  cases hnumber : c.number? with
  | none =>
      have hnone : numbersOf [c] = [] := by
        rw [numbersOf_singleton, hnumber, Option.toList_none]
      have hsame : o.prospects [c] = o.prospects [] := by
        simp only [prospects, hnone, numbersOf_nil]
      rw [hnone, List.nil_append] at hturn
      rw [hnone, List.append_nil, hsame]
      exact hturn
  | some n =>
      have hone : numbersOf [c] = [n] := by
        rw [numbersOf_singleton, hnumber, Option.toList_some]
      rw [hone] at hturn ⊢
      have happly := (hturn.sublist (List.sublist_append_left sent _)).apply
      refine happly.sublist (List.Sublist.append_left ?_ sent)
      simp only [prospects, hcaught, hone, List.nil_append]
      split
      · split
        · exact List.nil_sublist _
        · exact List.Sublist.refl _
      · exact List.nil_sublist _

/-- Whoever takes commands out of the queue drops some of them. -/
theorem drop (h : OnCourse applied held [] o) {held' : List Nat} (hheld : held'.Sublist held) :
    OnCourse applied held' [] o := by
  obtain ⟨hhome, sent, hsent, hturn⟩ := h
  exact ⟨hhome, sent, hsent, hturn.forget (hheld.append_right _)⟩

/-- The oldest command is taken out of the queue. -/
theorem receive {c : Command} {hub : Hub} (h : OnCourse applied held [] o)
    (hnext : o.hub.nextCommand o.home = some (c, hub)) :
    OnCourse applied (held ++ numbersOf [c]) [] { o with hub } ∧ hub.scope = o.hub.scope := by
  obtain ⟨hhome, sent, hsent, hturn⟩ := h
  obtain ⟨rest, hqueue, rfl⟩ := Hub.eq_of_nextCommand hnext
  refine ⟨⟨hhome.modifyMailbox _ _, sent, hsent, ?_⟩, rfl⟩
  have hqueued : (o.hub.ledger o.home).queued = numbersOf [c] ++ numbersOf rest := by
    rw [← numbersOf_append, List.singleton_append, ← hqueue]
    rfl
  simp only [prospects_nil, Hub.ledger_modifyMailbox hhome] at hturn ⊢
  rw [List.append_assoc, ← hqueued]
  exact hturn

/-- The queue goes away with what is in it. -/
theorem closeMailbox (h : OnCourse applied held [] o) :
    OnCourse applied held [] { o with hub := o.hub.closeMailbox o.home } := by
  have hclosed : OnCourse applied held [] { o with hub := o.hub.emptied o.home } := by
    obtain ⟨hhome, sent, hsent, hturn⟩ := h
    refine ⟨hhome.modifyMailbox _ _, sent, hsent, ?_⟩
    simp only [prospects_nil, Hub.emptied, Hub.ledger_modifyMailbox hhome] at hturn ⊢
    exact hturn.forget (List.Sublist.append_left (List.nil_sublist _) held)
  exact (rule o).abandonCommands (.of (_ ++ []) hclosed)

end Outlet.OnCourse

namespace Turn

variable {κ σ δ : Type} [Codec κ] [Connection σ]

/-- The bridge is on course, and the application leaves numbers to it. -/
def OnCourse (applied held : List Nat) (t : Turn κ σ δ) : Prop :=
  t.outlet.OnCourse applied held [] ∧ t.bridge.Obeys Action.LeavesNumbers

theorem rule_onCourse (applied held : List Nat) :
    WholeRule Action.LeavesNumbers
      (fun t : Turn κ σ δ => t.hub.scope = none ∧ t.OnCourse applied held)
      (OnCourse applied held) where
  obeys h := h.2
  step hasWriter now _ _ ha h := ⟨h.1.step hasWriter now ha, h.2⟩
  catchUp h := ⟨h.1.catchUp.1, h.2⟩
  react e _ h := ⟨h.1.react e, h.2⟩
  closing h := ⟨h.1.close, h.2⟩
  record he h := ⟨h.1.record _ (Entry.promised?_of_isReport he) (Entry.accepted?_of_isReport he),
    h.2⟩
  notice _ _ h := ⟨h.1.congr rfl rfl rfl (fun _ hsent => hsent) (List.Sublist.refl _), h.2⟩
  meter _ _ h := ⟨h.1.congr rfl rfl rfl (fun _ hsent => hsent) (List.Sublist.refl _), h.2⟩
  arrive _ _ h := ⟨h.1.congr rfl rfl rfl (fun _ hsent => hsent) (List.Sublist.refl _), h.2⟩
  advance _ h := h
  session hanswers h := by
    refine ⟨h.1, h.2.hooks, fun _ hs => h.2.blueprint hs, ?_⟩
    intro s hs
    cases hs
    exact hanswers
  blueprint h := ⟨h.1, h.2.hooks, nofun, fun _ hs => h.2.session hs⟩
  channel faults notifications t h := by
    refine ⟨h.1.congr rfl rfl rfl (fun _ hsent => hsent) ?_, h.2⟩
    rw [Outlet.prospects_nil, Outlet.prospects_nil]
    exact List.Sublist.refl _
  outside h := h.1
  enter h := ⟨(h.2.1.enter h.1).1, h.2.2⟩
  leave loop _ h := ⟨Hub.law_scope_none.abandonCommands (.of (_ ++ []) rfl), h.1.leave loop, h.2⟩
  closeOutside {t} h := by
    refine ⟨?_, h.2.1.close, h.2.2⟩
    simp only [Turn.close, onOutlet, withOutlet, Outlet.close]
    split
    · exact h.1
    · exact h.1
  call {_ describe s _} hs h := by
    refine ⟨h.1.call describe s ?_, h.2⟩
    cases hs <;> rfl
  raise e _ h := ⟨h.1.raise _, h.2⟩
  flush h := ⟨h.1.flush, h.2⟩
  upgrade h := h
  decoded input t h := by
    refine ⟨Outlet.holds_carryOut (fun _ r h => h.carryOut r) _ ?_, h.2⟩
    exact h.1.congr rfl rfl rfl (fun _ hsent => hsent) (List.Sublist.refl _)
  letGo h := ⟨h.1.call (fun _ => .inactive) _ rfl, h.2⟩
  shut {t} h := by
    have hshut := h.1.markInactive
    have hended := (Outlet.OnCourse.rule
      { t.outlet with channel := t.bridge.channel.markInactive.1 }).resolveAll
        t.bridge.channel.failed_of_mem_markInactive (.of (_ ++ []) hshut)
    exact ⟨hended, h.2⟩
  closed _ h := h

variable [Decoder δ]

/-- The oldest command that was taken out of the queue is applied. -/
theorem onCourse_apply (rounds : Nat) {c : Command} {applied held : List Nat}
    {t : Turn κ σ δ} (hscope : t.hub.scope = none)
    (h : t.OnCourse applied (numbersOf [c] ++ held)) :
    (t.apply rounds c).state.hub.scope = none ∧
      (t.apply rounds c).state.OnCourse (applied ++ numbersOf [c]) held := by
  obtain ⟨hentered, hcaught⟩ := h.1.enter hscope
  have hnow := h.1.apply (Hub.own_of_outside hscope t.bridge.id)
  exact (rule_onCourse (applied ++ numbersOf [c]) held).visit.around rounds
    ⟨hscope, hnow.forget, h.2⟩ ⟨(hentered.apply hcaught).write, h.2⟩

end Turn

end FrameBridge
