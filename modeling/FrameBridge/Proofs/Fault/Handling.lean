import FrameBridge.Proofs.Fault.Hush
import FrameBridge.Proofs.Issue.Transcript
import FrameBridge.Proofs.Law.Turn

/-!
# When a fault is handled

A fault is taken off the channel before it is handled, and what still waits in the inline queue is
no longer refused then: the codec gets it after the connection was told, and before it reacts.
-/

namespace FrameBridge

/-- The call by which a codec reacts to a violation. -/
def Codec.reactionTo {κ : Type} [Codec κ] (c : κ) (e : ProtocolError) : CodecCall :=
  match Codec.ownReaction c e, e with
  | some _, _ => .react e
  | none, .stream s code _ => .encode (.reset s code)
  | none, .connection code _ =>
      .encode (.goAway (Codec.lastRemote c) code (Bytes.ofText e.display))

namespace Hub

/-- What waits on the loop that runs goes on waiting whatever handles are used for; more may join
it. -/
theorem law_leftWaiting (loop : LoopId) (left : List Command) :
    Law (fun _ => True)
      (Regardless fun h => ∃ more, h.scope = some ⟨loop, left ++ more⟩) where
  good_of_faithful _ := trivial
  void h := h
  log {r _ h} _ hwaits := by
    show ∃ more, (h.log r).scope = some ⟨loop, left ++ more⟩
    rw [scope_log]
    exact hwaits
  forget _ _ _ h := h
  answered _ _ _ _ h := h
  issue _ _ _ _ _ _ h := h
  reserve _ _ _ h := h
  inline {c s _ h} _ hscope hwaits := by
    obtain ⟨more, hmore⟩ := hwaits
    obtain rfl := Option.some.inj (hscope.symm.trans hmore)
    exact ⟨more ++ [c], by simp⟩
  queue _ _ h := h

/-- The commands that wait on the loop that runs, and the calls that its codec got. -/
def Stands (loop : LoopId) (left : List Command) (calls : List CodecCall) (h : Hub) : Prop :=
  (∃ more, h.scope = some ⟨loop, left ++ more⟩) ∧ h.codecCalls loop = calls

theorem law_stands (loop : LoopId) (left : List Command) (calls : List CodecCall) :
    Law (fun _ => True) (Regardless (Stands loop left calls)) :=
  (law_leftWaiting loop left).and (law_codecCalls loop calls)

/-- What has to be shown of a property of hubs that lasts while a connection is told of something
without a writer. -/
structure Lasting (loop : LoopId) (H : Hub → Prop) : Prop where
  law : Law (fun _ => True) (Regardless H)
  record : ∀ {e h}, e.isReport → H h → H (h.record loop e)
  notice : ∀ n {h}, H h → H (h.notice n)

theorem lasting_stands (loop : LoopId) (left : List Command) (calls : List CodecCall) :
    Lasting loop (Stands loop left calls) where
  law := law_stands loop left calls
  record {_ h} he hs :=
    ⟨hs.1, (h.codecCalls_record_of_none loop (Entry.called?_of_isReport he)).trans hs.2⟩
  notice _ _ hs := hs

end Hub

namespace Outlet

variable {κ : Type} {o : Outlet κ} {loop : LoopId} {calls : List CodecCall}

/-- The codec of a loop was called for this much. -/
def HasCalled (loop : LoopId) (calls : List CodecCall) (o : Outlet κ) : Prop :=
  o.home = loop ∧ o.hub.codecCalls loop = calls

theorem hasCalled_flush (h : o.HasCalled loop calls) : o.flush.HasCalled loop calls := by
  obtain ⟨rfl, hcalls⟩ := h
  exact ⟨rfl, (o.hub.codecCalls_record_of_none o.home rfl).trans hcalls⟩

theorem hasCalled_close (h : o.HasCalled loop calls) : o.close.HasCalled loop calls := by
  unfold close
  split
  · exact h
  · exact h

/-- What a codec asks of the channel is not a call to the codec. -/
theorem hasCalled_carryOut (r : ChannelRequest) (h : o.HasCalled loop calls) :
    (o.carryOut r).HasCalled loop calls := by
  cases r with
  | write bytes p =>
      obtain ⟨rfl, hcalls⟩ := h
      refine ⟨rfl, ?_⟩
      refine (Hub.law_codecCalls o.home calls).resolveAll (o.channel.failed_of_mem_write _)
        (.of (_ ++ []) ?_)
      show Hub.codecCalls (if o.channel.isActive then _ else o.hub) o.home = calls
      split
      · exact (o.hub.codecCalls_record_of_none o.home rfl).trans hcalls
      · exact hcalls
  | notify e => exact h
  | raise e => exact h
  | flush => exact hasCalled_flush h
  | close => exact hasCalled_close h

/-- A call to a codec is entered once, whatever the codec then asks of the channel. -/
theorem hasCalled_call {α : Type} (describe : α → CodecCall) (s : CodecStep κ α)
    (h : o.HasCalled loop calls) :
    (o.call describe s).2.HasCalled loop (calls ++ [describe s.result]) := by
  obtain ⟨rfl, rfl⟩ := h
  exact holds_carryOut (fun _ r h => hasCalled_carryOut r h) _
    ⟨rfl, o.hub.codecCalls_record o.home (.codec (describe s.result))⟩

variable [Codec κ]

/-- Catching up with commands, none of which fails, makes just the calls that they ask for. -/
theorem hasCalled_catchUp {cs : List Command} (hscope : o.hub.scope = some ⟨o.home, cs⟩)
    (hcalm : o.catchUp.IsCalm) (h : o.HasCalled loop calls) :
    ∃ made, IsTranscript (cs.map .write) made ∧ o.catchUp.HasCalled loop (calls ++ made) := by
  have hwaits : o.waitingFor cs = o := by rw [waitingFor, ← hscope]
  rw [← hwaits] at hcalm ⊢
  have hcaught := catchUp_waitingFor (.inr hcalm)
  have hserve : cs.foldl perform (o.waitingFor []) =
      (cs.map Issue.write).foldl serve (o.waitingFor []) := by
    rw [List.foldl_map]
    rfl
  rw [hcaught, hserve] at hcalm ⊢
  obtain ⟨made, hmade, hcalls⟩ := transcript_foldl_serve hcalm
  obtain ⟨rfl, rfl⟩ := h
  have hhome := congrArg Bonds.home (bonds_foldl_serve hcalm)
  refine ⟨made, hmade, hhome, ?_⟩
  exact (congrArg (Hub.codecCalls _) hhome.symm).trans hcalls

theorem hasCalled_react (e : ProtocolError) (h : o.HasCalled loop calls) :
    (o.react e).HasCalled loop (calls ++ [Codec.reactionTo o.codec e]) := by
  have hreferred : (o.refer e).HasCalled loop calls := h
  have hcodec : (o.refer e).codec = o.codec := rfl
  unfold react Codec.reactionTo
  simp only [hcodec]
  cases Codec.ownReaction o.codec e with
  | some step => exact hasCalled_call _ _ hreferred
  | none =>
      cases e with
      | stream s c m => exact hasCalled_flush (hasCalled_call _ _ hreferred)
      | connection c m => exact hasCalled_close (hasCalled_flush (hasCalled_call _ _ hreferred))

end Outlet

namespace Turn

variable {κ σ δ : Type} [Codec κ]

/-- Code without a writer only uses handles. -/
theorem program_without_writer (now : StreamId) (actions : List Action) (t : Turn κ σ δ)
    {good : Command → Prop} {H : Hub → Prop} (L : Hub.Law good (Regardless H)) (h : H t.hub) :
    ∃ hub, (t.program false now actions).state = { t with hub } ∧ H hub := by
  have keep (o : Outlet κ) (a : Action) (ho : ∃ hub, o = { t.outlet with hub } ∧ H hub) :
      ∃ hub, (o.step false now a).state = { t.outlet with hub } ∧ H hub := by
    obtain ⟨hub, rfl, hH⟩ := ho
    cases a with
    | write a => exact ⟨hub, rfl, hH⟩
    | handle target offLoop a => exact ⟨_, rfl, L.use _ offLoop now a (.of [] hH)⟩
    | panic m => exact ⟨hub, rfl, hH⟩
  obtain ⟨hub, hstate, hH⟩ := Run.holds_each keep actions ⟨t.hub, rfl, h⟩
  exact ⟨hub, congrArg t.withOutlet hstate, hH⟩

variable [Connection σ]

/-- A connection that is told of something without a writer leaves all but itself and the hub
alone. -/
theorem tell_lasting {H : Hub → Prop} (t : Turn κ σ δ) (L : Hub.Lasting t.bridge.id H)
    {c : Callback} (hc : c.hasWriter = false) (h : H t.hub) :
    ∃ session hub, (t.tell c).state = { bridge := { t.bridge with session }, hub } ∧ H hub := by
  unfold tell
  cases hsession : t.bridge.session with
  | none => exact ⟨t.bridge.session, t.hub, rfl, h⟩
  | some session =>
      have hcall : H (t.record (.callback c)).hub := L.record rfl h
      obtain ⟨hub, hstate, hkept⟩ := program_without_writer c.currentStream
        (Connection.respond session.connection c).2 _ L.law hcall
      have hrun : (t.callback session.connection c).2.state = { t with hub } := by
        cases c with
        | frame f => cases hc
        | settings | streamClosed | writabilityChanged => cases hc
        | goAway | connectionError | streamError | closed => exact hstate
      refine ⟨some { session with connection := (t.callback session.connection c).1 }, hub, ?_,
        hkept⟩
      simp only [Run.state_map, hrun]

theorem handOver_lasting {H : Hub → Prop} (t : Turn κ σ δ) (L : Hub.Lasting t.bridge.id H)
    {c : Callback} (hc : c.hasWriter = false) (h : H t.hub) :
    ∃ session hub, (t.handOver c).state = { bridge := { t.bridge with session }, hub } ∧
      H hub := by
  unfold handOver
  split
  · exact ⟨t.bridge.session, t.hub, rfl, h⟩
  · have hover : H (t.record .handedOver).hub := L.record rfl h
    simp only
    split
    · exact tell_lasting (t.record .handedOver) L hc hover
    · exact ⟨t.bridge.session, _, rfl, hover⟩

/-- While the connection is told of an error only the connection and the hub change. -/
theorem announce_lasting {H : Hub → Prop} (t : Turn κ σ δ) (L : Hub.Lasting t.bridge.id H)
    (e : ProtocolError) (h : H t.hub) :
    ∃ session hub, (t.announce e).state = { bridge := { t.bridge with session }, hub } ∧
      H hub := by
  cases e with
  | stream s c m => exact handOver_lasting (t.notice _) L rfl (L.notice _ h)
  | connection c m => exact handOver_lasting (t.notice _) L rfl (L.notice _ h)

/-- The bridge once the connection was told of an exception. -/
def told (t : Turn κ σ δ) (e : BridgeError) : Turn κ σ δ :=
  ((t.reportException e).announce e.asProtocolError).state

omit [Codec κ] [Connection σ] in
theorem bridge_reportException (t : Turn κ σ δ) (e : BridgeError) :
    (t.reportException e).bridge = t.bridge := by
  unfold reportException
  split <;> rfl

omit [Codec κ] [Connection σ] in
theorem reportException_stands {left : List Command} {calls : List CodecCall} {t : Turn κ σ δ}
    (e : BridgeError) (h : t.hub.Stands t.bridge.id left calls) :
    (t.reportException e).hub.Stands t.bridge.id left calls := by
  unfold reportException
  split
  · exact h
  · exact h

/-- An exception that is handled leads from what the connection was told to the reaction of the
codec. -/
theorem state_onException {t : Turn κ σ δ} {e : BridgeError}
    (hup : (t.bridge.state.isEnding || t.bridge.channel.closeRequested) = false)
    (hdone : ((t.reportException e).announce e.asProtocolError).stop = none) :
    (t.onException e).state =
      ((t.told e).catchUp.onOutlet (·.react e.asProtocolError)).close := by
  have herror : ((t.reportException e).onError e.asProtocolError).stop = none :=
    Run.stop_andThen.mpr ⟨hdone, rfl⟩
  rw [onException, hup, if_neg Bool.false_ne_true, Run.state_andThen herror, onError,
    Run.state_andThen hdone]
  rfl

/-- What waits inline when an exception is handled reaches the codec before it reacts, together with
what the connection asks for when it is told. -/
theorem hasCalled_onException {t : Turn κ σ δ} {left : List Command} (e : BridgeError)
    (hscope : t.hub.scope = some ⟨t.bridge.id, left⟩)
    (hup : (t.bridge.state.isEnding || t.bridge.channel.closeRequested) = false)
    (hdone : ((t.reportException e).announce e.asProtocolError).stop = none)
    (hcalm : (t.told e).catchUp.outlet.IsCalm) :
    ∃ more made, (t.told e).hub.scope = some ⟨t.bridge.id, left ++ more⟩ ∧
      IsTranscript ((left ++ more).map .write) made ∧
      (t.onException e).state.outlet.HasCalled t.bridge.id
        (t.hub.codecCalls t.bridge.id ++ made ++
          [Codec.reactionTo (t.told e).catchUp.bridge.codec e.asProtocolError]) := by
  have hstart : t.hub.Stands t.bridge.id left (t.hub.codecCalls t.bridge.id) :=
    ⟨⟨[], by rw [List.append_nil, hscope]⟩, rfl⟩
  have hreport := reportException_stands e hstart
  rw [← bridge_reportException t e] at hreport
  obtain ⟨session, hub, hstate, ⟨more, hmore⟩, hcalls⟩ :=
    announce_lasting _ (Hub.lasting_stands _ left _) e.asProtocolError hreport
  rw [bridge_reportException] at hstate hmore hcalls
  have htold : t.told e = { bridge := { t.bridge with session }, hub } := hstate
  have hcalled : (t.told e).outlet.HasCalled t.bridge.id (t.hub.codecCalls t.bridge.id) := by
    rw [htold]
    exact ⟨rfl, hcalls⟩
  have hwaits : (t.told e).hub.scope = some ⟨t.bridge.id, left ++ more⟩ := by rw [htold, hmore]
  obtain ⟨made, hmade, hcaught⟩ := Outlet.hasCalled_catchUp
    (o := (t.told e).outlet) (by rw [htold]; exact hmore) hcalm hcalled
  refine ⟨more, made, hwaits, hmade, ?_⟩
  rw [state_onException hup hdone]
  have hreact := Outlet.hasCalled_react (o := (t.told e).catchUp.outlet) e.asProtocolError hcaught
  show ((t.told e).catchUp.outlet.react e.asProtocolError).close.HasCalled _ _
  exact Outlet.hasCalled_close hreact

end Turn

end FrameBridge
