import FrameBridge.Proofs.Delivery.Loop

/-!
# Steps of safe loops

Whatever a safe loop does next, and whatever happens to it, it stays safe.
-/

namespace FrameBridge.EventLoop

variable {σ δ τ : Type} [Transport τ] [Connection σ] [Decoder δ] {sent : List Outbound}
  {l l' : EventLoop LineCodec σ δ (Tap τ)}

theorem isSafe_start (rounds now : Nat) (h : l.turn.Rests sent [])
    (htaken : l.transport.taken = octets sent) : (l.start rounds now).IsSafe := by
  have hready : Turn.Rests sent []
      ((l.turn.meter Metrics.loopStarted).notice
        (.loopStarted l.id (l.turn.hub.meter Metrics.loopStarted).metrics.runningLoops)) :=
    h.lead (fun L hP => L.notice _ (L.meter _ hP)) h.outside
  have hscope := Turn.scope_enterBy rounds .activate hready.outside
  unfold start
  exact isSafe_lead rounds hready (fun L hP => L.activate rounds hready.outside hP) hscope htaken

theorem isSafe_reportIdle (rounds : Nat) (h : l.turn.Rests sent [])
    (htaken : l.transport.taken = octets sent) (kinds : List IdleKind) :
    (l.reportIdle rounds kinds).IsSafe := by
  have hscope : (Run.each (fun t k => t.onIdle rounds k) kinds l.turn).state.hub.scope = none :=
    Run.holds_each (P := fun t : Turn LineCodec σ δ => t.hub.scope = none)
      (fun t k hscope => Turn.scope_enterBy rounds (.idle k) hscope) kinds h.outside
  unfold reportIdle
  refine isSafe_lead rounds h ?_ hscope htaken
  intro good P L hP
  -- The scope of the loop has to be left between two reports, so both are carried along.
  have hboth := Run.holds_each (P := fun t : Turn LineCodec σ δ => t.hub.scope = none ∧ P [] t)
    (f := fun t k => t.onIdle rounds k)
    (fun t k ht => ⟨Turn.scope_enterBy rounds (.idle k) ht.1, L.onIdle rounds k ht.1 ht.2⟩)
    kinds ⟨h.outside, hP⟩
  exact hboth.2

theorem isSafe_takeInput (rounds now : Nat) (h : l.turn.Rests sent [])
    (htaken : l.transport.taken = octets sent) (xs : Bytes) :
    (l.takeInput rounds now xs).IsSafe := by
  unfold takeInput
  exact isSafe_lead rounds h (fun L hP => L.decode rounds _ h.outside hP)
    (Turn.scope_enterBy rounds (.decode _) h.outside) htaken

theorem isSafe_lookIdle (rounds now : Nat) (h : l.turn.Rests sent [])
    (htaken : l.transport.taken = octets sent) (hl : l.lookIdle rounds now = some l') :
    l'.IsSafe := by
  unfold lookIdle at hl
  split at hl
  · cases hl
    exact isSafe_stop h.closes (htaken ▸ List.prefix_rfl) (fun _ => htaken) _
  · cases hl
  · cases hl
    apply isSafe_reportIdle rounds
    · exact h
    · exact htaken

theorem isSafe_look (rounds now : Nat) (h : l.turn.Rests sent [])
    (hempty : l.turn.bridge.channel.flushed = []) (htaken : l.transport.taken = octets sent)
    (hl : l.look rounds now = some l') : l'.IsSafe := by
  unfold look at hl
  split at hl
  · cases hl
    have hnotice := h.notice (.shutdownRequested l.id)
    have hclosed : Turn.Rests sent [] (Turn.close _) :=
      hnotice.lead (fun L hP => L.close hP) (Turn.scope_enterBy rounds .close hnotice.outside)
    exact isSafe_deliver rounds hclosed htaken
  · split at hl
    · rename_i c hub hnext
      cases hl
      obtain ⟨hfaithful, hreceived⟩ := h.receive hnext
      refine isSafe_lead rounds hreceived ?_ (Turn.scope_apply rounds c hreceived.outside) htaken
      intro good P L hP
      exact L.apply rounds hreceived.outside ((L.hub l.turn).good_of_faithful hfaithful) hP
    · simp only [Transport.read, Tap.read] at hl
      rcases hread : Transport.read l.transport.inner l.buffer.prepare.room with ⟨answer, inner⟩
      rw [hread] at hl
      cases answer with
      | pending =>
          exact isSafe_lookIdle (l := { l with buffer := l.buffer.prepare }) rounds now h htaken hl
      | failed m =>
          cases hl
          have hnotice := h.notice (.readFailed l.id m)
          exact isSafe_lead rounds hnotice
            (fun L hP => L.exceptionCaught rounds (.transport m) hnotice.outside hP)
            (Turn.scope_enterBy rounds (.exception (.transport m)) hnotice.outside) htaken
      | ready xs =>
          cases xs with
          | nil =>
              cases hl
              exact isSafe_leave rounds (h.notice (.transportClosed l.id)) hempty
                (htaken ▸ List.prefix_rfl) fun _ => htaken
          | cons x xs =>
              cases hl
              apply isSafe_takeInput rounds now
              · exact h
              · exact htaken

theorem isSafe_poll (rounds now : Nat) (h : l.turn.Rests sent [])
    (hempty : l.turn.bridge.channel.flushed = []) (htaken : l.transport.taken = octets sent)
    (hl : l.poll rounds now = some l') : l'.IsSafe := by
  unfold poll at hl
  split at hl
  · cases hl
    exact isSafe_stop h.closes (htaken ▸ List.prefix_rfl) (fun _ => htaken) _
  · exact isSafe_look rounds now h hempty htaken hl

theorem isSafe_goOn (rounds now : Nat) {d : Delivery} (h : l.turn.Rests sent d.promises)
    (hempty : l.turn.bridge.channel.flushed = [])
    (htaken : l.transport.taken ++ octets d.waiting = octets sent)
    (hl : l.goOn rounds now d = some l') : l'.IsSafe := by
  have hstep := d.conserves_step l.transport
  unfold goOn at hl
  revert hl hstep
  cases d.step l.transport with
  | pending =>
      intro hl hstep
      cases hl
  | going d' transport =>
      intro hl hstep
      cases hstep with
      | going hpromises hsame =>
          cases hl
          refine .running rfl sent ?_ hempty (hsame.trans htaken)
          show l.turn.Rests sent d'.promises
          rw [hpromises]
          exact h
  | ended failure rs transport =>
      intro hl hstep
      cases hstep with
      | done hwaiting hpromises hsame =>
          cases hl
          have hall : transport.taken = octets sent := by
            rw [hwaiting, octets_nil, List.append_nil] at htaken
            exact hsame.trans htaken
          rw [← hpromises, ← List.append_nil (rs.map _)] at h
          have hrests := h.resolveAll
          unfold afterDelivery
          split
          · refine isSafe_leave rounds hrests hempty ?_ fun _ => hall
            show transport.taken <+: octets sent
            rw [hall]
          · exact isSafe_polling hrests hempty hall
      -- The octets of the rest are never written; all that is known is where writing stopped.
      | failed hpromises hsame hfailed =>
          rename_i e
          cases hl
          have hgone : l.turn.Rests sent (rs.map (·.promise) ++ []) := by
            rw [List.append_nil]
            exact h.perm hpromises.symm
          have hrests := hgone.resolveAll.notice (.writeFailed l.id e)
          refine isSafe_leave rounds hrests hempty ?_ ?_
          · show transport.taken <+: octets sent
            rw [hsame, ← htaken]
            exact List.prefix_append _ _
          · intro hnone
            have hnone' : transport.hasFailed = false := hnone
            rw [hfailed] at hnone'
            cases hnone'

theorem isSafe_step (rounds now : Nat) (h : l.IsSafe) (hl : l.step rounds now = some l') :
    l'.IsSafe := by
  unfold step at hl
  cases h with
  | running hrunning sent hturn hempty htaken =>
      cases hphase : l.phase with
      | starting =>
          rw [hphase] at hl hturn htaken
          cases hl
          refine isSafe_start rounds now hturn ?_
          rw [← htaken]
          exact (List.append_nil _).symm
      | polling =>
          rw [hphase] at hl hturn htaken
          refine isSafe_poll rounds now hturn hempty ?_ hl
          rw [← htaken]
          exact (List.append_nil _).symm
      | delivering d =>
          rw [hphase] at hl hturn htaken
          exact isSafe_goOn rounds now hturn hempty htaken hl
      | finished =>
          rw [hphase] at hl
          cases hl
      | stopped why =>
          rw [hphase] at hl
          cases hl
  -- A loop that has left takes no step.
  | left hleft sent older h =>
      unfold isRunning at hleft
      cases hphase : l.phase with
      | starting | polling | delivering d =>
          rw [hphase] at hleft
          cases hleft
      | finished | stopped why =>
          rw [hphase] at hl
          cases hl

/-! ### Moves -/

theorem isSafe_move (rounds : Nat) (h : l.IsSafe) (m : LoopMove LineCodec τ) :
    (l.move rounds m).IsSafe := by
  cases m with
  | step now =>
      simp only [move]
      cases hl : l.step rounds now with
      | none => exact h
      | some l' => exact isSafe_step rounds now h hl
  | use target a => exact isSafe_use h _ a
  | recode codec => exact isSafe_recode h codec
  | shutDown | elsewhere =>
      cases h with
      | running hrunning sent hturn hempty htaken =>
          exact .running hrunning sent hturn hempty htaken
      | left hleft sent older h =>
          exact .left hleft sent older ⟨h.kept, h.shut, h.gone, h.taken, h.whole, h.ended⟩

theorem isSafe_moves (rounds : Nat) (ms : List (LoopMove LineCodec τ)) (h : l.IsSafe) :
    (l.moves rounds ms).IsSafe := by
  induction ms generalizing l with
  | nil => exact h
  | cons m ms ih => exact ih (isSafe_move rounds h m)

end FrameBridge.EventLoop
