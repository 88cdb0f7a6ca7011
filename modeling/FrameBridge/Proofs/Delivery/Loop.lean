import FrameBridge.Loop.Course
import FrameBridge.Proofs.Delivery.Batch
import FrameBridge.Proofs.Delivery.Close

/-!
# Safe loops

A running loop has handed over the octets of all frames that it took off the channel, but for
those of the batch that is on its way.  A loop that has left shut its channel and its queue; the
octets that it handed over are those of the first frames that it took, and of all of them if the
transport did not fail.
-/

namespace FrameBridge

/-- What is on its way in a phase of a loop. -/
def LoopPhase.delivery : LoopPhase → Delivery
  | .delivering d => d
  | .starting | .polling | .finished | .stopped _ => { waiting := [] }

namespace EventLoop

variable {σ δ τ : Type}

/-- A loop that has left, at any time from then on.

* `kept`: what its bridge handed over, and when the end came.
* `whole`: the transport got all of that if it did not fail.
* `ended`: a loop that came to its end reported this. -/
structure HasLeft (sent : List Outbound) (older : List Record)
    (l : EventLoop LineCodec σ δ (Tap τ)) : Prop where
  kept : l.turn.Closes sent older []
  shut : l.turn.bridge.channel.isOpen = false
  gone : l.turn.hub.isOpen l.id = false
  taken : l.transport.taken <+: octets sent
  whole : l.transport.hasFailed = false → l.transport.taken = octets sent
  ended : l.phase = .finished → ¬HasNoEnd l.turn.hub.journal l.id

/-- What holds of a loop at any time. -/
inductive IsSafe (l : EventLoop LineCodec σ δ (Tap τ)) : Prop
  | running (hrunning : l.isRunning = true) (sent : List Outbound)
      (hturn : l.turn.Rests sent l.phase.delivery.promises)
      (hempty : l.turn.bridge.channel.flushed = [])
      (htaken : l.transport.taken ++ octets l.phase.delivery.waiting = octets sent)
  | left (hleft : l.isRunning = false) (sent : List Outbound) (older : List Record)
      (h : l.HasLeft sent older)

variable {sent : List Outbound} {older : List Record} {l : EventLoop LineCodec σ δ (Tap τ)}

theorem isSafe_polling (hturn : l.turn.Rests sent [])
    (hempty : l.turn.bridge.channel.flushed = []) (htaken : l.transport.taken = octets sent) :
    IsSafe { l with phase := .polling } := by
  refine .running rfl sent hturn hempty ?_
  show l.transport.taken ++ octets [] = octets sent
  rw [octets_nil, List.append_nil]
  exact htaken

/-! ### From outside -/

theorem isSafe_use (h : l.IsSafe) (target : LoopId) (a : HandleAction) :
    IsSafe (l.onHub (·.use target true .connection a)) := by
  cases h with
  | running hrunning sent hturn hempty htaken =>
      exact .running hrunning sent (hturn.use target .connection a) hempty htaken
  | left hleft sent older h =>
      have hgone := (Hub.law_isOpen l.id false).use target true .connection a (.of [] h.gone)
      have hgrown : l.turn.hub.journal <:+ (l.turn.hub.use target true .connection a).journal :=
        (Hub.law_suffix _).use target true .connection a (.of [] List.suffix_rfl)
      exact .left hleft sent older ⟨h.kept.use target .connection a, h.shut, hgone, h.taken, h.whole,
        fun hfinished hnone => h.ended hfinished fun r hr => hnone r (hgrown.subset hr)⟩

theorem isSafe_recode (h : l.IsSafe) (codec : LineCodec) :
    IsSafe { l with turn := { l.turn with bridge := { l.turn.bridge with codec } } } := by
  cases h with
  | running hrunning sent hturn hempty htaken =>
      exact .running hrunning sent (hturn.recode codec) hempty htaken
  | left hleft sent older h =>
      exact .left hleft sent older
        ⟨h.kept.recode codec, h.shut, h.gone, h.taken, h.whole, h.ended⟩

variable [Transport τ]

/-! ### Leaving -/

/-- A loop that application code stops loses nothing that was handed over. -/
theorem isSafe_stop (h : l.turn.Closes sent older []) (htaken : l.transport.taken <+: octets sent)
    (hall : l.transport.hasFailed = false → l.transport.taken = octets sent) (why : Stop) :
    (l.stop why).IsSafe := by
  have hrelease : l.release.turn.Closes sent older [] := (h.aside (.meter _) rfl).closeMailbox
  have hdropped : l.release.dropBridge.turn.Closes sent older [] := hrelease.shut
  have hgone : l.release.turn.hub.isOpen l.id = false := Hub.isOpen_closeMailbox _ _
  have hgone' : l.release.dropBridge.turn.hub.isOpen l.id = false :=
    (Hub.law_isOpen l.id false).resolveAll
      l.turn.bridge.channel.failed_of_mem_markInactive (.of (_ ++ []) hgone)
  -- A loop that was stopped never came to its end, so there is no more to say.
  have hend (l : EventLoop LineCodec σ δ (Tap τ)) (hphase : l.phase = .stopped why) :
      l.phase = .finished → ¬HasNoEnd l.turn.hub.journal l.id := by
    intro hfinished
    rw [hphase] at hfinished
    cases hfinished
  unfold stop
  simp only
  split
  · refine .left rfl sent older ⟨?_, rfl, hgone', htaken, hall, hend _ rfl⟩
    exact (hdropped.aside (.meter _) rfl).aside (.notice _) rfl
  · exact .left rfl sent older ⟨hdropped, rfl, hgone', htaken, hall, hend _ rfl⟩

/-- Going on with a run of the bridge is safe if it is safe where the run came to its end, since
a run that stopped leaves a bridge that closes. -/
theorem isSafe_resume {r : Run (Turn LineCodec σ δ)}
    {next : EventLoop LineCodec σ δ (Tap τ) → EventLoop LineCodec σ δ (Tap τ)}
    (h : r.state.Closes sent older []) (htaken : l.transport.taken <+: octets sent)
    (hall : l.transport.hasFailed = false → l.transport.taken = octets sent)
    (hnext : r.stop = none → (next { l with turn := r.state }).IsSafe) :
    (l.resume r next).IsSafe := by
  unfold resume
  simp only
  split
  · rename_i hstop
    exact hnext hstop
  · rename_i why hstop
    exact isSafe_stop (l := { l with turn := r.state }) h htaken hall why

/-- A loop comes to its end. -/
theorem isSafe_finish (h : l.turn.Closes sent older [])
    (hshut : l.turn.bridge.channel.isOpen = false)
    (hend : ¬HasNoEnd l.turn.hub.journal l.id) (htaken : l.transport.taken <+: octets sent)
    (hall : l.transport.hasFailed = false → l.transport.taken = octets sent) :
    l.finish.IsSafe := by
  have hnotice := h.aside (.notice (.loopFinished l.id)) rfl
  have hreleased : l.finish.turn.Closes sent older [] :=
    (hnotice.aside (.meter Metrics.loopEnded) rfl).closeMailbox
  have hgone : l.finish.turn.hub.isOpen l.id = false := Hub.isOpen_closeMailbox _ _
  have hgrown : l.turn.hub.journal <:+ l.finish.turn.hub.journal :=
    (Hub.law_suffix _).abandonCommands (.of (_ ++ []) List.suffix_rfl)
  exact .left rfl sent older ⟨hreleased, hshut, hgone, htaken, hall,
    fun _ hnone => hend fun r hr => hnone r (hgrown.subset hr)⟩

/-- Shutting the transport down takes no octets, and tells the bridge nothing. -/
theorem shutTransport_frame (h : l.turn.Rests sent []) :
    l.shutTransport.turn.Rests sent [] ∧ l.shutTransport.turn.bridge = l.turn.bridge ∧
      l.shutTransport.transport.taken = l.transport.taken ∧
      l.shutTransport.transport.hasFailed = l.transport.hasFailed := by
  unfold shutTransport
  simp only [Transport.shutdown, Tap.shutdown]
  cases Transport.shutdown l.transport.inner with
  | mk answer inner =>
      cases answer with
      | ok u => exact ⟨h, rfl, rfl, rfl⟩
      | error m => exact ⟨h.notice _, rfl, rfl, rfl⟩

variable [Connection σ] [Decoder δ]

/-- A loop may leave when everything that was flushed was taken off the channel. -/
theorem isSafe_leave (rounds : Nat) (h : l.turn.Rests sent [])
    (hempty : l.turn.bridge.channel.flushed = []) (htaken : l.transport.taken <+: octets sent)
    (hall : l.transport.hasFailed = false → l.transport.taken = octets sent) :
    (l.leave rounds).IsSafe := by
  -- All that was flushed was handed over, and no more is taken off the channel from here on.
  obtain ⟨hrests, hbridge, hsame, hsame'⟩ := shutTransport_frame h
  have hcloses := hrests.deactivate (hbridge ▸ hempty) rounds
  rw [← hsame] at htaken hall
  rw [← hsame'] at hall
  refine isSafe_resume hcloses htaken hall fun hstop => ?_
  have hid : (l.shutTransport.turn.deactivate rounds).state.bridge.id =
      l.shutTransport.turn.bridge.id :=
    hcloses.account.1.isTidy.1.trans hrests.account.1.isTidy.1.symm
  refine isSafe_finish hcloses ?_ ?_ htaken hall
  · exact Turn.isShut_deactivate rounds hrests.outside hrests.closed hstop
  · have hend := Turn.journal_deactivate rounds hrests.outside hrests.state_ne
    rw [← hid] at hend
    exact fun hnone => hnone _ (hend.subset List.mem_cons_self) ⟨rfl, rfl⟩

/-- Everything that the bridge flushed is taken off the channel, and its delivery begins. -/
theorem isSafe_deliver (rounds : Nat) (h : l.turn.Rests sent [])
    (htaken : l.transport.taken = octets sent) : (l.deliver rounds).IsSafe := by
  have hturn := h.takeFlushed
  rw [List.append_nil] at hturn
  unfold deliver
  -- Without frames the loop goes on at once, or leaves if the bridge wants to be closed.
  by_cases hnone : l.turn.bridge.channel.flushed = []
  · have hempty : l.turn.bridge.channel.takeFlushed.1.isEmpty = true := by
      rw [Channel.takeFlushed, hnone]
      rfl
    simp only [hempty, if_true]
    rw [hnone, List.append_nil] at hturn
    unfold afterDelivery
    split
    · exact isSafe_leave rounds hturn rfl (htaken ▸ List.prefix_rfl) fun _ => htaken
    · exact isSafe_polling hturn rfl htaken
  · have hsome : l.turn.bridge.channel.takeFlushed.1.isEmpty = false :=
      List.isEmpty_eq_false_iff.mpr hnone
    simp only [hsome]
    refine .running rfl (sent ++ l.turn.bridge.channel.flushed) hturn rfl ?_
    show l.transport.taken ++ octets l.turn.bridge.channel.flushed = _
    rw [octets_append, htaken]

/-- What leads the bridge from rest to rest is safe. -/
theorem isSafe_lead (rounds : Nat) {r : Run (Turn LineCodec σ δ)} {ps : List Promise}
    (h : l.turn.Rests sent ps) (hlead : Turn.Leads ps [] l.turn r.state)
    (hscope : r.state.hub.scope = none) (htaken : l.transport.taken = octets sent) :
    (l.resume r (deliver rounds)).IsSafe := by
  have hrests := h.lead hlead hscope
  exact isSafe_resume hrests.closes (htaken ▸ List.prefix_rfl) (fun _ => htaken) fun _ =>
    isSafe_deliver rounds hrests htaken

end EventLoop

end FrameBridge
