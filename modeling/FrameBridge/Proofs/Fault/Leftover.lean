import FrameBridge.Proofs.Fault.Handling
import FrameBridge.Proofs.Issue.Order

/-!
# Writes after a fault

What application code asks for after one of its writes has left a fault is refused, except for the
writes through the handle of its own bridge that nothing else follows: those still wait when the
callback returns.  The fault is taken off the channel before they are looked at, so the codec gets
them just before its reaction to the fault, in their order and ahead of what the connection asks
for when it is told of the fault.
-/

namespace FrameBridge

namespace Turn

variable {κ σ δ : Type} [Codec κ]

theorem program_append (hasWriter : Bool) (now : StreamId) (first rest : List Action)
    (t : Turn κ σ δ) :
    t.program hasWriter now (first ++ rest) =
      (t.program hasWriter now first).andThen (program hasWriter now rest) := by
  unfold program Outlet.program
  rw [Run.each_append]
  cases hrun : Run.each (Outlet.step hasWriter now) first t.outlet with
  | mk o stop => cases stop <;> rfl

variable [Connection σ] [Decoder δ]

/-- The turn in which the only fault is about to be handled. -/
def faultTaken (t : Turn κ σ δ) : Turn κ σ δ := t.onChannel ({ · with faults := [] })

theorem settle_of_fault (rounds : Nat) {t : Turn κ σ δ} {e : BridgeError}
    (hfault : t.bridge.channel.faults = [e]) :
    t.settle (rounds + 1) = (t.faultTaken.onException e).andThen (settle rounds) := by
  rw [settle, hfault]
  rfl

/-- After a write of application code has left a fault, the codec gets nothing more until the code
returns.  Then the fault is handled, and before the codec reacts to it the codec gets

* what the code had queued through its own handle by then and no write of a writer followed,
* and what the connection queued when it was told of the fault,

all of it in order, and nothing else. -/
theorem calls_after_fault {t raised returned : Turn κ σ δ} {now : StreamId}
    {first rest : List Action} {e : BridgeError} {left : List Command}
    (hraised : t.program true now first = .done raised)
    (hreturned : t.program true now (first ++ rest) = .done returned)
    (hfault : raised.bridge.channel.faults = [e])
    (hscope : returned.hub.scope = some ⟨returned.bridge.id, left⟩)
    (hup : (returned.bridge.state.isEnding || returned.bridge.channel.closeRequested) = false)
    (hdone : ((returned.faultTaken.reportException e).announce e.asProtocolError).stop = none)
    (hcalm : (returned.faultTaken.told e).catchUp.outlet.IsCalm) :
    returned.outlet.IsHushed raised.bridge.id [e] (raised.hub.codecCalls raised.bridge.id) ∧
    (∀ rounds, returned.settle (rounds + 1) =
      (returned.faultTaken.onException e).andThen (settle rounds)) ∧
    ∃ more made, (returned.faultTaken.told e).hub.scope = some ⟨raised.bridge.id, left ++ more⟩ ∧
      IsTranscript ((left ++ more).map .write) made ∧
      (returned.faultTaken.onException e).state.outlet.HasCalled raised.bridge.id
        (raised.hub.codecCalls raised.bridge.id ++ made ++
          [Codec.reactionTo (returned.faultTaken.told e).catchUp.bridge.codec
            e.asProtocolError]) := by
  have hrest : (raised.program true now rest).state = returned := by
    rw [program_append, hraised, Run.andThen_done] at hreturned
    exact congrArg Run.state hreturned
  have hwaits : raised.bridge.channel.hasFault = true := by simp [Channel.hasFault, hfault]
  have hhushed := isHushed_program hwaits true now rest
  rw [hrest, hfault] at hhushed
  obtain ⟨⟨hid, hfaults⟩, hcalls⟩ := hhushed
  have hid : returned.bridge.id = raised.bridge.id := hid
  have hcalls : returned.hub.codecCalls raised.bridge.id = _ := hcalls
  refine ⟨⟨⟨hid, hfaults⟩, hcalls⟩, fun rounds => settle_of_fault rounds hfaults, ?_⟩
  have hhandled := hasCalled_onException (t := returned.faultTaken) e hscope hup hdone hcalm
  rw [← hcalls, ← hid]
  exact hhandled

end Turn

/-- A bridge in whose codec the next drain fails. -/
def strained : Turn LineCodec Script ToyDecoder :=
  let window : ProtocolError := .connection .internalError "window"
  { entered with
    bridge := { entered.bridge with
      codec := { entered.bridge.codec with drainFailure := some window }
      session := some { connection := {}, listener := none }
      state := .settingsReceived } }

/-- Data whose drain fails, and then headers through the handle of the bridge. -/
def leaky : List Action :=
  [.write (.data (.id (.ofNat 1)) [0x78] true),
    .handle none false (.headers (.id (.ofNat 3)) .empty false)]

/-- What the codec of the strained bridge gets between the fault and its reaction. -/
theorem calls_after_fault_leaky :
    let raised := (strained.program true .connection (leaky.take 1)).state
    let returned := (strained.program true .connection leaky).state
    let window : BridgeError := .protocol (.connection .internalError "window")
    raised.bridge.channel.faults = [window] ∧
      ∃ more made, (returned.faultTaken.told window).hub.scope =
          some ⟨⟨0⟩, [.headers (.ofNat 3) .empty false] ++ more⟩ ∧
        IsTranscript (([.headers (.ofNat 3) .empty false] ++ more).map .write) made ∧
        (returned.faultTaken.onException window).state.outlet.HasCalled ⟨0⟩
          (raised.hub.codecCalls ⟨0⟩ ++ made ++
            [Codec.reactionTo (returned.faultTaken.told window).catchUp.bridge.codec
              window.asProtocolError]) := by
  intro raised returned window
  have hraised : strained.program true .connection (leaky.take 1) = .done raised := rfl
  have hreturned : strained.program true .connection (leaky.take 1 ++ leaky.drop 1) =
      .done returned := rfl
  have hfault : raised.bridge.channel.faults = [window] := rfl
  have hcalm : (returned.faultTaken.told window).catchUp.outlet.IsCalm := ⟨rfl, rfl⟩
  have hcalls := Turn.calls_after_fault hraised hreturned hfault rfl rfl rfl hcalm
  exact ⟨hfault, hcalls.2.2⟩

/-- A write that is issued after another one has left a fault may still be encoded. -/
theorem leaky_is_encoded :
    (strained.program true .connection (leaky.take 1)).state.bridge.channel.hasFault = true ∧
      (((strained.program true .connection leaky).andThen (Turn.settle 8)).state.hub.codecCalls
        ⟨0⟩) =
        [.encode (.data (.ofNat 1) [0x78] 0 true),
          .drain (.error (.connection .internalError "window")),
          .encode (.headers (.ofNat 3) .empty 0 false),
          .encode (.goAway .connection .internalError (Bytes.ofText
            (ProtocolError.connection .internalError "window").display))] :=
  ⟨rfl, rfl⟩

end FrameBridge
