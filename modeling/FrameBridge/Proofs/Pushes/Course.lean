import FrameBridge.Proofs.Issue.Sight
import FrameBridge.Proofs.Pushes.InTurn
import FrameBridge.Proofs.Pushes.Sent

/-!
# The course of push promises

While its loop runs a bridge sends the numbers that wait inline before it looks at its queue again.
An outlet is on course if the numbers it has sent, followed by those that are bound to be sent
next, are in turn.  Commands that were taken off the inline queue are under way until they are
performed; they go behind what waits inline by then.

What is bound to be sent comes to nothing once the channel takes no writes, and commands under way
come to nothing while a fault waits.  Only then do writes end early, so only then may callbacks of
writes ask for more numbers.
-/

namespace FrameBridge

namespace Outlet

variable {κ : Type}

/-- The numbers that are bound to be sent next. -/
def prospects (o : Outlet κ) (underWay : List Command) : List Nat :=
  if o.channel.isActive then
    (o.hub.ledger o.home).own ++ (if o.channel.hasFault then [] else numbersOf underWay)
  else []

/-- What an outlet has sent and will send is in turn, where the numbers `applied` came out of its
queue and the numbers `held` are with whoever takes commands out of it. -/
structure OnCourse (applied held : List Nat) (underWay : List Command) (o : Outlet κ) : Prop where
  isHome : o.hub.IsHomeOf o.home
  inTurn : ∃ sent, Sent sent o.channel.isActive o.hub.journal o.home ∧
    InTurn applied (sent ++ o.prospects underWay) (held ++ (o.hub.ledger o.home).queued)
      (o.hub.ledger o.home).next

/-- No promise waits inline, or whatever is under way comes to nothing. -/
def IsCaughtUp (o : Outlet κ) : Prop := o.IsCalm → (o.hub.ledger o.home).own = []

theorem prospects_nil (o : Outlet κ) :
    o.prospects [] = if o.channel.isActive then (o.hub.ledger o.home).own else [] := by
  simp only [prospects, numbersOf_nil, ite_self, List.append_nil]

theorem prospects_of_inactive {o : Outlet κ} (h : o.channel.isActive = false)
    (underWay : List Command) : o.prospects underWay = [] := by
  simp only [prospects, h, Bool.false_eq_true, if_false]

theorem prospects_nil_sublist (o : Outlet κ) (underWay : List Command) :
    (o.prospects []).Sublist (o.prospects underWay) := by
  unfold prospects
  split
  · refine List.Sublist.append_left ?_ _
    split
    · exact List.Sublist.refl _
    · exact List.nil_sublist _
  · exact List.Sublist.refl _

/-- What is under way comes to nothing where an outlet is not calm. -/
theorem prospects_of_not_isCalm {o : Outlet κ} (h : ¬ o.IsCalm) (underWay : List Command) :
    o.prospects underWay = o.prospects [] := by
  unfold prospects
  split
  · rename_i hactive
    have hfault : o.channel.hasFault = true := by
      cases hfault : o.channel.hasFault with
      | true => rfl
      | false => exact absurd ⟨hactive, hfault⟩ h
    simp only [hfault, if_true]
  · rfl

namespace OnCourse

variable {applied held : List Nat} {underWay underWay' : List Command} {o o' : Outlet κ}

/-- Whatever neither deals nor sends numbers leaves an outlet on course. -/
theorem congr (h : OnCourse applied held underWay o) (hhome : o'.home = o.home)
    (hmailboxes : o'.hub.mailboxes = o.hub.mailboxes) (hscope : o'.hub.scope = o.hub.scope)
    (hsent : ∀ sent, Sent sent o.channel.isActive o.hub.journal o.home →
      Sent sent o'.channel.isActive o'.hub.journal o.home)
    (hprospects : (o'.prospects underWay').Sublist (o.prospects underWay)) :
    OnCourse applied held underWay' o' := by
  obtain ⟨hhomeOf, sent, hsentNow, hturn⟩ := h
  refine ⟨?_, sent, ?_, ?_⟩
  · rw [hhome]
    exact hhomeOf.congr hmailboxes hscope
  · rw [hhome]
    exact hsent sent hsentNow
  · rw [hhome, Hub.ledger_congr hmailboxes hscope]
    exact hturn.sublist (hprospects.append_left sent)

theorem forget (h : OnCourse applied held underWay o) : OnCourse applied held [] o :=
  h.congr rfl rfl rfl (fun _ hsent => hsent) (o.prospects_nil_sublist underWay)

theorem of_not_isCalm (h : OnCourse applied held [] o) (hcalm : ¬ o.IsCalm) :
    OnCourse applied held underWay o := by
  refine h.congr rfl rfl rfl (fun _ hsent => hsent) ?_
  rw [prospects_of_not_isCalm hcalm]

/-- An entry about neither an announcement nor a frame. -/
theorem record (h : OnCourse applied held underWay o) (loop : LoopId) {e : Entry}
    (hpromised : e.promised? = none) (haccepted : e.accepted? = none) :
    OnCourse applied held underWay { o with hub := o.hub.record loop e } :=
  h.congr rfl rfl rfl (fun _ hsent => hsent.aside hpromised haccepted) (List.Sublist.refl _)

/-- The end of a write is entered, whether it succeeded or not. -/
theorem log (h : OnCourse applied held underWay o) (r : Resolution) :
    OnCourse applied held underWay { o with hub := o.hub.log r } := by
  unfold Hub.log
  split
  · exact h
  · exact h.record _ rfl rfl

/-- Whatever handles are used for and callbacks of writes do, an outlet on course with nothing
under way stays on course. -/
theorem rule (o : Outlet κ) :
    Hub.Rule (Regardless fun h => OnCourse applied held [] { o with hub := h }) where
  log {r _ _} _ h := OnCourse.log h r
  forget _ _ _ h := OnCourse.congr h rfl rfl rfl (fun _ hsent => hsent) (List.Sublist.refl _)
  useOnce target offLoop now a {_ h} hcourse := by
    obtain ⟨hhome, sent, hsent, hturn⟩ := hcourse
    obtain ⟨hhome', hdeals⟩ := Hub.deals_useOnce hhome target offLoop now a
    have hsent' := (Sent.law sent o.channel.isActive o.home).useOnce target offLoop now a
      (.of [] hsent)
    refine ⟨hhome', sent, hsent', ?_⟩
    simp only [prospects_nil] at hturn ⊢
    split
    · rename_i hactive
      rw [if_pos hactive] at hturn
      exact hturn.deals hdeals
    · rename_i hactive
      rw [if_neg hactive, List.append_nil] at hturn
      rw [List.append_nil]
      exact hturn.deals_in_vain hdeals

/-! ### What is asked of the channel -/

theorem accept (h : OnCourse applied held underWay o) (f : Outbound) :
    OnCourse applied held underWay (o.accept f) := by
  cases hactive : o.channel.isActive with
  | true =>
      rw [accept_of_isActive hactive]
      have hactive' : ({ o.channel with pending := o.channel.pending ++ [f] } : Channel).isActive =
        o.channel.isActive := rfl
      exact h.congr rfl rfl rfl (fun _ hsent => hsent.accepted hactive f) (List.Sublist.refl _)
  | false =>
      -- The write ends at once, and whoever waits for it may ask for more.
      have hcalm : ¬ o.IsCalm := fun hcalm => Bool.false_ne_true (hactive.symm.trans hcalm.1)
      have hend : OnCourse applied held [] { o with hub := o.hub.abandon f.promise } :=
        (rule o).abandon (.of [f.promise] h.forget)
      simp only [Outlet.accept, Channel.write_of_inactive hactive, hactive, Bool.false_eq_true,
        if_false]
      exact hend.of_not_isCalm hcalm

theorem flush (h : OnCourse applied held underWay o) :
    OnCourse applied held underWay o.flush :=
  h.congr rfl rfl rfl (fun _ hsent => hsent.aside rfl rfl) (List.Sublist.refl _)

theorem close (h : OnCourse applied held underWay o) : OnCourse applied held underWay o.close := by
  have hinactive : o.close.channel.isActive = false := o.channel.isActive_requestClose
  obtain ⟨hmailboxes, hscope, hjournal⟩ : o.close.hub.mailboxes = o.hub.mailboxes ∧
      o.close.hub.scope = o.hub.scope ∧ o.close.hub.journal = o.hub.journal := by
    unfold Outlet.close
    split <;> exact ⟨rfl, rfl, rfl⟩
  refine h.congr rfl hmailboxes hscope ?_ ?_
  · intro sent hsent
    rw [hinactive, hjournal]
    exact hsent.mono nofun
  · rw [prospects_of_inactive hinactive]
    exact List.nil_sublist _

/-- The transport is gone. -/
theorem markInactive (h : OnCourse applied held underWay o) :
    OnCourse applied held underWay { o with channel := o.channel.markInactive.1 } := by
  have hinactive : o.channel.markInactive.1.isActive = false := o.channel.isActive_markInactive
  refine h.congr rfl rfl rfl (fun _ hsent => ?_) ?_
  · rw [hinactive]
    exact hsent.mono nofun
  · rw [prospects_of_inactive hinactive]
    exact List.nil_sublist _

theorem raise (h : OnCourse applied held underWay o) (e : BridgeError) :
    OnCourse applied held underWay { o with channel := o.channel.raise e } := by
  have hraise : OnCourse applied held [] { o with channel := o.channel.raise e } := by
    refine h.forget.congr rfl rfl rfl (fun _ hsent => hsent) ?_
    rw [prospects_nil, prospects_nil]
    exact List.Sublist.refl _
  exact hraise.of_not_isCalm (not_isCalm_raise o e)

theorem carryOut (h : OnCourse applied held underWay o) (r : ChannelRequest) :
    OnCourse applied held underWay (o.carryOut r) := by
  cases r with
  | write bytes p => exact h.accept ⟨bytes, p⟩
  | notify e => exact h.congr rfl rfl rfl (fun _ hsent => hsent) (List.Sublist.refl _)
  | raise e => exact h.raise e
  | flush => exact h.flush
  | close => exact h.close

/-! ### What is asked of the codec -/

/-- A call that announces no promised stream. -/
theorem call (h : OnCourse applied held underWay o) {α : Type} (describe : α → CodecCall)
    (s : CodecStep κ α) (hcall : Entry.promised? (.codec (describe s.result)) = none) :
    OnCourse applied held underWay (o.call describe s).2 := by
  have hrecord := h.record o.home (e := .codec (describe s.result)) hcall rfl
  have hcodec : OnCourse applied held underWay
      { o.record (.codec (describe s.result)) with codec := s.codec } :=
    hrecord.congr rfl rfl rfl (fun _ hsent => hsent) (List.Sublist.refl _)
  exact holds_carryOut (fun _ r h => h.carryOut r) s.requests hcodec

variable [Codec κ]

theorem drain (h : OnCourse applied held underWay o) : OnCourse applied held underWay o.drain := by
  have hcall := h.call .drain (Codec.drain o.codec) rfl
  unfold Outlet.drain
  rcases hr : o.call .drain (Codec.drain o.codec) with ⟨_ | _, o'⟩
  · rw [hr] at hcall
    exact hcall.raise _
  · rw [hr] at hcall
    exact hcall

theorem afterEncoding (h : OnCourse applied held underWay o) (c : Command) :
    OnCourse applied held underWay (o.afterEncoding c) := by
  cases c with
  | pushPromise => exact h
  | data s d ends =>
      simp only [Outlet.afterEncoding]
      split
      · exact h.drain.flush
      · exact h.flush
  | headers | ping | frame | reset | goAway | settings => exact h.flush

omit [Codec κ] in
/-- The codec is asked for the frame of a command whose turn it is. -/
theorem ask {c : Command} (h : OnCourse applied held (c :: underWay) o)
    (hfault : o.channel.hasFault = false) (hcaught : o.IsCaughtUp) :
    OnCourse applied held underWay (o.record (.codec (.encode c.outgoing))) := by
  have hentry : Entry.promised? (.codec (.encode c.outgoing)) = c.number? := by
    cases c <;> rfl
  cases hnumber : c.number? with
  | none =>
      have hsame : o.prospects underWay = o.prospects (c :: underWay) := by
        simp only [prospects, numbersOf_cons, hnumber, Option.toList_none, List.nil_append]
      refine h.congr rfl rfl rfl (fun _ hsent => hsent.aside (hentry.trans hnumber) rfl) ?_
      rw [← hsame]
      exact List.Sublist.refl _
  | some n =>
      obtain ⟨hhome, sent, hsent, hturn⟩ := h
      have hasked := hsent.promise (hentry.trans hnumber)
      refine ⟨hhome.congr rfl rfl, _, hasked, ?_⟩
      -- The number was the first of those that are bound to be sent, if any are.
      cases hactive : o.channel.isActive with
      | false =>
          rw [prospects_of_inactive hactive] at hturn
          rw [prospects_of_inactive (o := o.record _) hactive]
          exact hturn
      | true =>
          have hfirst : o.prospects (c :: underWay) = [n] ++ o.prospects underWay := by
            simp only [prospects, hactive, if_true, hfault, Bool.false_eq_true, if_false,
              hcaught ⟨hactive, hfault⟩, numbersOf_cons, hnumber, Option.toList_some, List.nil_append]
          rw [hfirst, ← List.append_assoc] at hturn
          exact hturn

/-- The write of a command whose turn it is is encoded. -/
theorem encode {c : Command} (h : OnCourse applied held (c :: underWay) o)
    (hfault : o.channel.hasFault = false) (hcaught : o.IsCaughtUp) :
    OnCourse applied held underWay (o.encode c.outgoing c.promise) := by
  have hasked : OnCourse applied held underWay
      { o.record (.codec (.encode c.outgoing)) with
        codec := (Codec.encode o.codec c.outgoing c.promise).codec } :=
    (h.ask hfault hcaught).congr rfl rfl rfl (fun _ hsent => hsent) (List.Sublist.refl _)
  exact holds_carryOut (fun _ r h => h.carryOut r) _ hasked

/-- A command whose turn it is is performed, or refused. -/
theorem perform {c : Command} (h : OnCourse applied held (c :: underWay) o)
    (hcaught : o.IsCaughtUp) : OnCourse applied held underWay (o.perform c) := by
  cases hfault : o.channel.hasFault with
  | true =>
      have hcalm : ¬ o.IsCalm := fun hcalm => Bool.false_ne_true (hcalm.2.symm.trans hfault)
      have hrefused : OnCourse applied held [] { o with hub := o.hub.abandon c.promise } :=
        (rule o).abandon (.of [c.promise] h.forget)
      simp only [Outlet.perform, hfault, if_true]
      exact hrefused.of_not_isCalm hcalm
  | false =>
      simp only [Outlet.perform, hfault, Bool.false_eq_true, if_false]
      exact (h.encode hfault hcaught).afterEncoding c

end OnCourse

end Outlet

end FrameBridge
