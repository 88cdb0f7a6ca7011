import FrameBridge.Bridge.Errors
import FrameBridge.Proofs.Pushes.Course

/-!
# Writes on course

Commands that wait inline are performed before a writer's own write is made, and none of them waits
any more by then unless the write is refused or comes to nothing.  So application code leaves an
outlet on course, whatever it asks for, as long as it leaves the numbers of promised streams to the
bridge.
-/

namespace FrameBridge

/-- The action promises a stream whose number the application chose. -/
def Action.choosesNumber : Action → Bool
  | .write (.pushId ..) => true
  | .write _ | .handle .. | .panic _ => false

/-- The action leaves the numbers of promised streams to the bridge. -/
def Action.LeavesNumbers (a : Action) : Prop := a.choosesNumber = false

namespace Outlet

variable {κ : Type} [Codec κ]

theorem IsCaughtUp.perform {o : Outlet κ} (h : o.IsCaughtUp) (c : Command) :
    (o.perform c).IsCaughtUp := by
  intro hcalm
  have hbonds := bonds_perform hcalm
  have hscope : (o.perform c).hub.scope = o.hub.scope := congrArg Bonds.scope hbonds
  have hbefore := h (isCalm_of_perform hcalm)
  simp only [Hub.ledger, Hub.inline, hscope] at hbefore ⊢
  exact hbefore

namespace OnCourse

variable {applied held : List Nat} {underWay : List Command} {o : Outlet κ}

omit [Codec κ] in
/-- The commands queued inline are taken; they go ahead of what was under way before. -/
theorem take (h : OnCourse applied held underWay o) :
    OnCourse applied held (o.hub.takeInline.1 ++ underWay) { o with hub := o.hub.takeInline.2 } ∧
      IsCaughtUp { o with hub := o.hub.takeInline.2 } := by
  obtain ⟨hhome, sent, hsent, hturn⟩ := h
  obtain ⟨hhome', hledger⟩ := Hub.ledger_takeInline hhome
  have hjournal : o.hub.takeInline.2.journal = o.hub.journal := by
    obtain ⟨s, hs⟩ := o.hub.takeInline_eq
    rw [hs]
  have hown : (o.hub.ledger o.home).own = numbersOf o.hub.takeInline.1 := by
    rw [Hub.takeInline_fst]
    rfl
  refine ⟨⟨hhome', sent, ?_, ?_⟩, fun _ => congrArg Ledger.own hledger⟩
  · rw [hjournal]
    exact hsent
  · simp only [hledger]
    refine hturn.sublist (List.Sublist.append_left ?_ sent)
    simp only [prospects, hledger, hown, numbersOf_append, List.nil_append]
    split
    · split
      · exact List.nil_sublist _
      · exact List.Sublist.refl _
    · exact List.Sublist.refl _

omit [Codec κ] in
/-- Commands that are under way are dealt with one after the other. -/
theorem fold {f : Outlet κ → Command → Outlet κ}
    (hf : ∀ c underWay o, OnCourse applied held (c :: underWay) o → o.IsCaughtUp →
      OnCourse applied held underWay (f o c) ∧ (f o c).IsCaughtUp)
    (cs : List Command) (h : OnCourse applied held (cs ++ underWay) o) (hcaught : o.IsCaughtUp) :
    OnCourse applied held underWay (cs.foldl f o) ∧ (cs.foldl f o).IsCaughtUp := by
  induction cs generalizing o with
  | nil => exact ⟨h, hcaught⟩
  | cons c cs ih =>
      obtain ⟨hnext, hcaught'⟩ := hf c _ o h hcaught
      exact ih hnext hcaught'

theorem catchUpWithin (h : OnCourse applied held underWay o) (depth : Nat) :
    OnCourse applied held underWay (o.catchUpWithin depth) ∧
      (o.catchUpWithin depth).IsCaughtUp := by
  induction depth generalizing underWay o with
  | zero =>
      obtain ⟨htaken, hcaught⟩ := h.take
      exact fold (fun c _ _ h hcaught => ⟨h.perform hcaught, hcaught.perform c⟩) _ htaken hcaught
  | succ depth ih =>
      obtain ⟨htaken, hcaught⟩ := h.take
      refine fold (fun c _ _ h _ => ?_) _ htaken hcaught
      -- Whatever was queued meanwhile goes before the command, which goes before the others.
      obtain ⟨hbefore, hcaught'⟩ := ih h
      exact ⟨hbefore.perform hcaught', hcaught'.perform c⟩

theorem catchUp (h : OnCourse applied held underWay o) :
    OnCourse applied held underWay o.catchUp ∧ o.catchUp.IsCaughtUp :=
  h.catchUpWithin _

theorem write {c : Command} (h : OnCourse applied held (c :: underWay) o) :
    OnCourse applied held underWay (o.write c) := by
  obtain ⟨hcourse, hcaught⟩ := h.catchUp
  exact hcourse.perform hcaught

/-- A write that promises no stream. -/
theorem writePlain (h : OnCourse applied held [] o) {c : Command} (hc : c.number? = none) :
    OnCourse applied held [] (o.write c) := by
  apply write
  refine h.congr rfl rfl rfl (fun _ hsent => hsent) ?_
  simp only [prospects, numbersOf_singleton, hc, Option.toList_none, numbersOf_nil]
  exact List.Sublist.refl _

theorem writeWatched (h : OnCourse applied held [] o) (w : WatchRequest) {c : Promise → Command}
    (hc : ∀ p, (c p).number? = none) : OnCourse applied held [] (o.writeWatched w c) := by
  refine writePlain ?_ (hc _)
  cases w with
  | none => exact h
  | some request => exact h.congr rfl rfl rfl (fun _ hsent => hsent) (List.Sublist.refl _)

theorem giveBack (h : OnCourse applied held underWay o) (s : StreamId) (n : UInt32) :
    OnCourse applied held underWay (o.giveBack s n) := by
  have hcall := h.call (.consume s n) (Codec.consume o.codec s n) rfl
  unfold Outlet.giveBack
  split
  · exact h
  · rcases hr : o.call (.consume s n) (Codec.consume o.codec s n) with ⟨_ | told, o'⟩
    · rw [hr] at hcall
      exact hcall.raise _
    · rw [hr] at hcall
      cases told with
      | true => exact hcall.flush
      | false => exact hcall

/-- A promise for the next number. -/
theorem push (h : OnCourse applied held [] o) (s : StreamId) (hs : Headers) :
    OnCourse applied held [] (o.push s hs).2 := by
  have hreserves := Hub.reserves_reserve h.isHome
  have hjournal : (o.hub.reserve o.home).2.journal = o.hub.journal := rfl
  unfold Outlet.push
  generalize o.hub.reserve o.home = reserved at hreserves hjournal
  obtain ⟨r, hub⟩ := reserved
  obtain ⟨hhome, hreserves⟩ := hreserves
  obtain ⟨-, sent, hsent, hturn⟩ := h
  have hsent' : Sent sent o.channel.isActive hub.journal o.home := by
    rw [hjournal]
    exact hsent
  generalize hledger : hub.ledger o.home = l at hreserves
  cases hreserves with
  | refused e =>
      refine ⟨hhome, sent, hsent', ?_⟩
      simp only [prospects_nil, hledger] at hturn ⊢
      exact hturn
  | taken hid =>
      -- The number goes behind those that wait on the loop, if it will be sent at all.
      refine write ⟨hhome, sent, hsent', ?_⟩
      simp only [prospects, hledger, numbersOf_singleton, Command.number?, hid,
        Option.toList_some]
      rw [prospects_nil] at hturn
      split
      · rename_i hactive
        rw [if_pos hactive] at hturn
        refine hturn.send.sublist ?_
        rw [List.append_assoc]
        refine List.Sublist.append_left (List.Sublist.append_left ?_ _) sent
        split
        · exact List.nil_sublist _
        · exact List.Sublist.refl _
      · rename_i hactive
        rw [if_neg hactive] at hturn
        exact hturn.skip (Nat.le_add_right _ 2)

/-- An action of a writer. -/
theorem act (h : OnCourse applied held [] o) (now : StreamId) {a : WriterAction}
    (ha : (Action.write a).LeavesNumbers) : OnCourse applied held [] (o.act now a) := by
  cases a with
  | headers | data | frame | reset | goAway => exact h.writePlain rfl
  | ping | settings => exact h.writeWatched _ fun _ => rfl
  | consume s n => exact h.catchUp.1.giveBack _ n
  | pushId s id hs w => cases ha
  | push s hs => exact (h.push _ hs).record _ rfl rfl
  | isWritable | isActive => exact h.record _ rfl rfl
  | close => exact h.close

/-- One action of application code. -/
theorem step (h : OnCourse applied held [] o) (hasWriter : Bool) (now : StreamId) {a : Action}
    (ha : a.LeavesNumbers) : OnCourse applied held [] (o.step hasWriter now a).state := by
  cases a with
  | write a =>
      cases hasWriter with
      | true => exact h.act now ha
      | false => exact h
  | handle target offLoop a => exact (rule o).use _ offLoop now a (.of [] h)
  | panic m => exact h

/-- The codec's reaction to a violation. -/
theorem react (h : OnCourse applied held [] o) (e : ProtocolError) :
    OnCourse applied held [] (o.react e) := by
  have hreferred : OnCourse applied held [] (o.refer e) :=
    h.congr rfl rfl rfl (fun _ hsent => hsent) (List.Sublist.refl _)
  unfold Outlet.react
  simp only
  cases Codec.ownReaction (o.refer e).codec e with
  | some step => exact hreferred.call _ step rfl
  | none =>
      cases e with
      | stream s c m => exact (hreferred.call _ _ rfl).flush
      | connection c m => exact (hreferred.call _ _ rfl).flush.close

end OnCourse

end Outlet

end FrameBridge
