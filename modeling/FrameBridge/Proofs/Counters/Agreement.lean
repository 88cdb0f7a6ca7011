import FrameBridge.Proofs.Counters.Run
import FrameBridge.Proofs.Law.Recall
import FrameBridge.Rehearsal.LineCodec
import FrameBridge.Rehearsal.Script
import FrameBridge.Rehearsal.ToyDecoder

/-!
# The metrics agree with what happened

Over a run of a bridge the frames that are counted are those that arrived and those that the channel
accepted, and the errors that are counted are those that were referred to the codec, and those that
the application panicked about before.
-/

namespace FrameBridge

/-- From one hub to a later one the counters grew by what happened at a loop meanwhile; besides,
errors were counted that the application panicked about. -/
structure Hub.Counted (loop : LoopId) (broken : Nat) (h h' : Hub) : Prop where
  outbound : ∃ accepted,
    acceptedFrames h'.journal loop = acceptedFrames h.journal loop ++ accepted ∧
      h'.metrics.outbound = h.metrics.outbound + accepted.length
  inbound : ∃ arrived, h'.framesAt loop = h.framesAt loop ++ arrived ∧
    h'.metrics.inbound = h.metrics.inbound + arrived.length
  errors : ∃ referred, h'.referredAt loop = h.referredAt loop ++ referred ∧
    h'.metrics.handled = h.metrics.handled + referred.length + broken

/-- What is on record of a loop at the end is what was on record before, and what happened since. -/
theorem Hub.Counted.of_surplus {loop : LoopId} {broken : Nat} {h h' : Hub} (hrecalls : h'.Recalls h)
    (hsurplus : (h'.tally loop).surplus =
      { (h.tally loop).surplus with errors := (h.tally loop).surplus.errors + broken }) :
    Hub.Counted loop broken h h' := by
  obtain ⟨accepted, haccepted⟩ := reported_suffix Entry.accepted? hrecalls.journal loop
  obtain ⟨arrived, harrived⟩ : h.framesAt loop <+: h'.framesAt loop :=
    hrecalls.arrivals.reverse.filterMap _
  obtain ⟨referred, hreferred⟩ : h.referredAt loop <+: h'.referredAt loop :=
    hrecalls.referrals.reverse.filterMap _
  have hmoreAccepted := congrArg List.length haccepted
  have hmoreArrived := congrArg List.length harrived
  have hmoreReferred := congrArg List.length hreferred
  rw [List.length_append] at hmoreAccepted hmoreArrived hmoreReferred
  simp only [Tally.surplus, Hub.tally, acceptedFrames, Surplus.mk.injEq] at hsurplus
  obtain ⟨hinbound, houtbound, herrors, -⟩ := hsurplus
  exact
    { outbound := ⟨accepted, haccepted.symm, by omega⟩
      inbound := ⟨arrived, harrived.symm, by omega⟩
      errors := ⟨referred, hreferred.symm, by simp only [Metrics.handled]; omega⟩ }

namespace Turn

variable {κ σ δ : Type} [Codec κ] [Connection σ]

/-- Handling an error counts it once, under one label, and refers it to the codec once, unless the
application panics while it is told. -/
def CountsOnce (l : ErrorLabel) (e : ProtocolError) (t : Turn κ σ δ) (r : Run (Turn κ σ δ)) : Prop :=
  let counted := (t.hub.tally t.bridge.id).count l
  r.state.outlet.tally = (t.bridge.id, if r.stop = none then counted.refer e else counted)

theorem countsOnce_onViolation (e : ProtocolError) (t : Turn κ σ δ) :
    t.CountsOnce .protocol e (t.onViolation e) := by
  have hhandled := tally_onError (t.meter (·.countError .protocol)) e
  have hcounted : (t.meter (·.countError .protocol)).hub.tally t.bridge.id =
      (t.hub.tally t.bridge.id).count .protocol := t.hub.tally_countError .protocol t.bridge.id
  exact hhandled.trans (congrArg (fun s : Tally => (t.bridge.id,
    if (t.onViolation e).stop = none then s.refer e else s)) hcounted)

/-- Whether errors other than violations are dropped. -/
def isDeaf (t : Turn κ σ δ) : Bool := t.bridge.state.isEnding || t.bridge.channel.closeRequested

omit [Codec κ] [Connection σ] in
theorem tally_reportException (t : Turn κ σ δ) (e : BridgeError) :
    (t.reportException e).hub.tally (t.reportException e).bridge.id =
      (t.hub.tally t.bridge.id).count e.label := by
  unfold reportException BridgeError.label
  split
  · exact t.hub.tally_countError .contract t.bridge.id
  · exact t.hub.tally_countError .exception t.bridge.id

omit [Codec κ] [Connection σ] in
theorem id_reportException (t : Turn κ σ δ) (e : BridgeError) :
    (t.reportException e).bridge.id = t.bridge.id := by
  unfold reportException
  split <;> rfl

theorem countsOnce_onException (e : BridgeError) {t : Turn κ σ δ} (h : t.isDeaf = false) :
    t.CountsOnce e.label e.asProtocolError (t.onException e) := by
  have hdeaf : ¬ t.isDeaf = true := by rw [h]; exact Bool.false_ne_true
  have hhandled := tally_onError (t.reportException e) e.asProtocolError
  rw [t.id_reportException e] at hhandled
  have hcounted := t.tally_reportException e
  rw [t.id_reportException e] at hcounted
  rw [hcounted] at hhandled
  have hrun : t.onException e =
      ((t.reportException e).onError e.asProtocolError).andThen fun t => .done t.close :=
    if_neg hdeaf
  rw [CountsOnce, hrun]
  by_cases hend : ((t.reportException e).onError e.asProtocolError).stop = none
  · rw [Run.andThen_of_done hend, Run.stop_done, if_pos rfl]
    rw [if_pos hend] at hhandled
    have hclosed := Outlet.tally_carryOut
      ((t.reportException e).onError e.asProtocolError).state.outlet .close
    exact hclosed.trans hhandled
  · rw [Run.andThen_of_stopped hend, if_neg hend]
    rw [if_neg hend] at hhandled
    exact hhandled

end Turn

/-- The metrics agree with what happened.  In any run of a driver the counter of outbound frames
grows by the frames that the channel accepted, the counter of inbound frames by the frames that were
routed before the end, and the three counters of errors together by the violations that the codec
was asked to react to, and by the errors that the application panicked about when it was told.  The
code that waits for writes is taken to come to its end: a panic of it, after an error was counted and
before the codec is asked, would leave that error unreferred as well.  Every single error that is handled is counted under one label and referred once; no error that is
dropped, and no event after the end, is counted at all. -/
theorem Drive.counted_run {κ σ δ : Type} [Codec κ] [Connection σ] [Decoder δ] (rounds : Nat)
    (steps : List (DriveStep κ)) (d : Drive κ σ δ) :
    Hub.Counted d.home (d.breaks rounds steps) d.turn.hub (d.run rounds steps).turn.hub ∧
      (∀ (t : Turn κ σ δ) e, t.CountsOnce .protocol e (t.onViolation e)) ∧
      (∀ (t : Turn κ σ δ) e, t.isDeaf = false →
        t.CountsOnce e.label e.asProtocolError (t.onException e)) ∧
      (∀ (t : Turn κ σ δ) e, t.isDeaf = true →
        (t.onException e).state.hub.metrics = t.hub.metrics) ∧
      ∀ (t : Turn κ σ δ) e, t.bridge.state = .closed →
        (t.route e).state.hub.metrics = t.hub.metrics := by
  refine ⟨?_, fun t e => t.countsOnce_onViolation e, fun t e h => t.countsOnce_onException e h, ?_, ?_⟩
  · have hcounted := Drive.hasSurplus_run rounds steps (d := d) ⟨rfl, rfl⟩
    obtain ⟨hhome, hsurplus⟩ := hcounted
    refine .of_surplus (d.recalls_run rounds steps) ?_
    exact (congrArg (fun loop => ((d.run rounds steps).turn.hub.tally loop).surplus) hhome).symm.trans
      hsurplus
  · intro t e h
    have hdropped : t.onException e = .done (t.notice (.errorIgnored t.bridge.id e)) := if_pos h
    rw [hdropped]
    rfl
  · intro t e h
    unfold Turn.route
    rw [if_pos h]
    rfl

/-! ### A panic about an error -/

/-- An application that panics when it is told of an error of a stream. -/
def skittish : Builder LineCodec Script ToyDecoder where
  codec := {}
  blueprint := { parts := [{ cue := .streamError, actions := [.panic "no"], left := 1 }] }

/-- The peer sends its settings and then breaks the rules on one stream, twice. -/
def startling : List (DriveStep LineCodec) :=
  [.enter .activate, .enter (.event (.frame (.settings .empty))),
    .enter (.event (.error (.stream (.ofNat 1) .protocolError "bad"))),
    .enter (.event (.error (.stream (.ofNat 3) .protocolError "bad")))]

/-- The run in which the application panics about the first of two errors. -/
def startled : Drive LineCodec Script ToyDecoder := (Drive.start skittish []).run 2 startling

/-- Two errors were counted, one of them was referred to the codec, and the application panicked
about the other one. -/
theorem counted_run_startled :
    (Drive.start skittish []).breaks 2 startling = 1 ∧
      Hub.Counted ⟨0⟩ 1 (Drive.start skittish []).turn.hub startled.turn.hub ∧
      startled.turn.hub.metrics.handled = 2 ∧ startled.turn.hub.metrics.inbound = 1 ∧
      startled.turn.hub.metrics.outbound = 2 := by
  have hbreaks : (Drive.start skittish []).breaks 2 startling = 1 := by decide +kernel
  have hcounted := (Drive.counted_run 2 startling (Drive.start skittish [])).1
  rw [hbreaks] at hcounted
  exact ⟨hbreaks, hcounted, by decide +kernel⟩

/-- An error that the application panics about is counted although no codec is asked to react to
it. -/
theorem error_counted_unreferred :
    ¬ Hub.Counted ⟨0⟩ 0 (Drive.start skittish []).turn.hub startled.turn.hub := by
  intro hcounted
  obtain ⟨referred, hreferred, hhandled⟩ := hcounted.errors
  have hbefore : (Drive.start skittish []).turn.hub.metrics.handled = 0 := by decide +kernel
  have hafter : startled.turn.hub.metrics.handled = 2 := by decide +kernel
  have hnone : (Drive.start skittish []).turn.hub.referredAt ⟨0⟩ = [] := by decide +kernel
  have hone : (startled.turn.hub.referredAt ⟨0⟩).length = 1 := by decide +kernel
  rw [hreferred, hnone, List.nil_append] at hone
  omega

end FrameBridge
