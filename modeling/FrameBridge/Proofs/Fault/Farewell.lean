import FrameBridge.Proofs.Entry.Closing
import FrameBridge.Proofs.Entry.Stance
import FrameBridge.Proofs.Fault.Silence
import FrameBridge.Proofs.Issue.Frames
import FrameBridge.Rehearsal.Script
import FrameBridge.Rehearsal.ToyDecoder

/-!
# The last frame

When an error ends the connection, the connection is told of it first, the commands that wait are
performed, and then the codec announces the end and the channel is about to close.  The announcement
is the last frame that the channel accepts: all others were accepted before it, and are flushed with
it.

* `Outlet.Gathers` follows what a channel takes in while commands are performed.
* `Turn.Handles` lists the ways in which such an error comes up.
* `Turn.farewell_of_handles` puts the announcement in its place.
-/

namespace FrameBridge

/-! ### What catching up adds -/

theorem Hub.lasting_acceptedFrames (loop : LoopId) (sent : List Outbound) :
    Lasting loop (fun h => acceptedFrames h.journal loop = sent) where
  law := law_acceptedFrames loop sent
  record {_ h} he hsent :=
    (reported_cons_of_none Entry.accepted? (Entry.accepted?_of_isReport he) h.journal loop).trans
      hsent
  notice _ _ hsent := hsent

theorem Hub.lasting_leftWaiting (loop : LoopId) (left : List Command) :
    Lasting loop (fun h => ∃ more, h.scope = some ⟨loop, left ++ more⟩) where
  law := law_leftWaiting loop left
  record _ hleft := hleft
  notice _ _ hleft := hleft

/-- A codec that never closes writes its frames without closing. -/
theorem Codec.LeavesClosing.keepsOpen {κ : Type} [Codec κ] (h : Codec.LeavesClosing κ) :
    Codec.KeepsOpen κ where
  encode := h.encode
  drain _ := h.answer .drain

namespace LineCodec

/-- A codec of lines writes one frame when it is told to write. -/
theorem frames_encode (k : LineCodec) (c : Command) :
    (Codec.encode k c.outgoing c.promise).frames = [frameOf c] := by
  have hquiet : (k.aftermath c.outgoing).filterMap ChannelRequest.frame? = [] := by
    rw [List.filterMap_eq_nil_iff]
    intro r hr
    obtain ⟨e, rfl⟩ := notify_of_mem_aftermath hr
    rfl
  exact congrArg (frameOf c :: ·) hquiet

/-- The frame of a command comes first, whatever is drained after it. -/
theorem head_written (k : LineCodec) (c : Command) :
    ∃ rest, (Codec.written k c).1 = frameOf c :: rest := by
  have hframes := k.frames_encode c
  cases c with
  | data s d ends =>
      simp only [Codec.written, hframes]
      split <;> exact ⟨_, rfl⟩
  | headers | ping | frame | reset | goAway | settings | pushPromise => exact ⟨[], hframes⟩

/-- The frames of commands are written in order. -/
theorem sublist_writtenAll (k : LineCodec) (cs : List Command) :
    (cs.map frameOf).Sublist (Codec.writtenAll k cs).1 := by
  induction cs generalizing k with
  | nil => exact .slnil
  | cons c cs ih =>
      obtain ⟨rest, hrest⟩ := k.head_written c
      rw [List.map_cons, Codec.writtenAll, hrest, List.cons_append]
      exact ((ih _).trans (List.sublist_append_right rest _)).cons_cons _

theorem lastRemote_written (k : LineCodec) (c : Command) :
    (Codec.written k c).2.lastRemote = k.lastRemote := by
  have hdrain (k : LineCodec) : (Codec.drain k).codec.lastRemote = k.lastRemote := by
    simp only [Codec.drain, LineCodec.drain]
    split <;> rfl
  cases c with
  | data s d ends =>
      simp only [Codec.written]
      split
      · exact hdrain _
      · rfl
  | headers | ping | frame | reset | goAway | settings | pushPromise => rfl

end LineCodec

namespace Outlet

/-- The channel of a loop takes writes.  Since some frames were accepted and others were held, what
came to the first has come to the second as well. -/
def Gathers (loop : LoopId) (last : StreamId) (accepted held : List Outbound)
    (o : Outlet LineCodec) : Prop :=
  (o.home = loop ∧ o.channel.isActive = true ∧ o.codec.lastRemote = last) ∧
    ∃ more, acceptedFrames o.hub.journal loop = accepted ++ more ∧
      o.channel.flushed ++ o.channel.pending = held ++ more

variable {loop : LoopId} {last : StreamId} {accepted held : List Outbound} {o : Outlet LineCodec}

/-- What a channel that takes writes takes in is gathered. -/
theorem Gathers.took {o' : Outlet LineCodec} {fs : List Outbound}
    (h : Gathers loop last accepted held o) (htook : o.Took fs o')
    (hlast : o'.codec.lastRemote = o.codec.lastRemote) : Gathers loop last accepted held o' := by
  obtain ⟨⟨rfl, -, hcodec⟩, more, haccepted, hheld⟩ := h
  refine ⟨⟨htook.home, htook.active, hlast.trans hcodec⟩, more ++ fs, ?_, ?_⟩
  · rw [htook.accepted, haccepted, List.append_assoc]
  · rw [htook.held, hheld, List.append_assoc]

/-- What is performed while the channel takes writes is gathered, whatever fails. -/
theorem rule_gathers (loop : LoopId) (last : StreamId) (accepted held : List Outbound) :
    WriteRule (fun _ => True) (Regardless (Gathers loop last accepted held)) := by
  have hub (o : Outlet LineCodec) : Hub.Law (fun _ => True) fun ps h =>
      Regardless (Gathers loop last accepted held) ps { o with hub := h } := by
    have hsame := Hub.law_of_constant
      (o.home = loop ∧ o.channel.isActive = true ∧ o.codec.lastRemote = last)
    refine hsame.and (Hub.law_journal (p := fun j =>
      ∃ more, acceptedFrames j loop = accepted ++ more ∧
        o.channel.flushed ++ o.channel.pending = held ++ more) ?_)
    intro r j hr ⟨more, haccepted, hheld⟩
    have hsame := reported_cons_of_none Entry.accepted? (Entry.accepted?_of_isEcho hr) j loop
    exact ⟨more, hsame.trans haccepted, hheld⟩
  exact
    { hub
      good_of_waiting := fun _ _ _ => trivial
      take := fun {ps o} h => by
        obtain ⟨s, hs⟩ := o.hub.takeInline_eq
        rw [hs]
        exact h
      perform := fun {c ps o} _ h => by
        by_cases hfault : o.channel.hasFault = true
        · unfold perform
          rw [if_pos hfault]
          exact (hub o).abandon h
        · have hcalm : o.IsCalm := ⟨h.1.2.1, Bool.eq_false_iff.mpr hfault⟩
          obtain ⟨htook, hcodec⟩ := took_perform LineCodec.leavesClosing.keepsOpen hcalm c
          exact h.took htook (by rw [hcodec, LineCodec.lastRemote_written]) }

/-- Commands that wait have their frames accepted by catching up, if no write fails. -/
theorem accepted_catchUp {cs : List Command} (hscope : o.hub.scope = some ⟨o.home, cs⟩)
    (h : o.catchUp.IsCalm) :
    ∃ more, acceptedFrames o.catchUp.hub.journal o.home =
        acceptedFrames o.hub.journal o.home ++ more ∧
      (cs.map LineCodec.frameOf).Sublist more := by
  have htook := (took_catchUp LineCodec.leavesClosing.keepsOpen hscope h).1
  exact ⟨_, htook.accepted, o.codec.sublist_writtenAll cs⟩

/-! ### The announcement -/

/-- The frame by which a codec announces the end of the connection. -/
def farewell (last : StreamId) (code : ErrorCode) (message : String) : Outbound :=
  LineCodec.frameOf
    (.goAway code last (Bytes.ofText (ProtocolError.connection code message).display))

/-- What has become of an outlet that announced the end: the announcement was accepted last, and all
that was held is flushed with it. -/
structure Parted (accepted held : List Outbound) (bye : Outbound) (o : Outlet LineCodec) :
    Prop where
  accepted : acceptedFrames o.hub.journal o.home = accepted ++ [bye]
  pending : o.channel.pending = []
  flushed : o.channel.flushed = held ++ [bye]

theorem Parted.close {bye : Outbound} (h : o.Parted accepted held bye) :
    o.close.Parted accepted held bye := by
  refine ⟨?_, h.pending, h.flushed⟩
  rw [← h.accepted]
  unfold Outlet.close
  split <;> rfl

/-- An outlet that announced the end, and whose channel is about to close, accepts nothing more. -/
theorem Parted.isSilent {bye : Outbound} (h : o.Parted accepted held bye)
    (hclosing : o.channel.closeRequested = true) : o.IsSilent o.home (accepted ++ [bye]) := by
  refine ⟨rfl, ?_, h.accepted⟩
  rw [Channel.isActive, hclosing, Bool.not_true, Bool.and_false]

/-- The reaction to an error of the connection announces the end. -/
theorem parted_react (hactive : o.channel.isActive = true) (code : ErrorCode) (message : String) :
    (o.react (.connection code message)).home = o.home ∧
      (o.react (.connection code message)).channel.closeRequested = true ∧
      (o.react (.connection code message)).Parted (acceptedFrames o.hub.journal o.home)
        (o.channel.flushed ++ o.channel.pending) (farewell o.codec.lastRemote code message) := by
  have hframes : (Codec.encode o.codec (Codec.usualReaction o.codec (.connection code message))
      .void).frames = [farewell o.codec.lastRemote code message] :=
    o.codec.frames_encode (.goAway code o.codec.lastRemote _)
  obtain ⟨hhome, hspent⟩ :=
    spent_react (e := .connection code message) LineCodec.leavesClosing.keepsOpen hactive rfl
  rw [hframes] at hspent
  refine ⟨hhome, rfl, ?_, hspent.pending, hspent.flushed⟩
  exact hspent.accepted

end Outlet

/-! ### How such an error comes up -/

namespace Bridge

variable {κ σ δ : Type}

/-- The exception that a frame is if it comes before the connection exists.  Settings create the
connection instead, unless its blueprint is gone. -/
def refusal? (b : Bridge κ σ δ) (f : Frame) : Option BridgeError :=
  match b.session, f, b.blueprint with
  | some _, _, _ => none
  | none, .settings _, some _ => none
  | none, .settings _, none => some (.connectionAbsent .settings)
  | none, f, _ =>
      match f.kind with
      | .priorityHeaders => some (.connectionAbsent .priorityHeaders)
      | kind => some (.unsupported kind)

/-- A bridge whose channel takes writes has not come to its end, and no close was asked for. -/
theorem Upright.isUp {b : Bridge κ σ δ} (h : b.Upright) (hactive : b.channel.isActive = true) :
    b.state.isEnding = false ∧ b.channel.closeRequested = false := by
  obtain ⟨hopen, hrequested⟩ := Bool.and_eq_true_iff.mp hactive
  have hrequested : b.channel.closeRequested = false := by simpa using hrequested
  refine ⟨?_, hrequested⟩
  cases hstate : b.state with
  | created | prefaceSent | settingsReceived => rfl
  | closing => cases hrequested.symm.trans (h.closing hstate)
  | closed => cases hopen.symm.trans (h.closed hstate)

end Bridge

namespace Turn

variable {κ σ δ : Type} [Codec κ] [Connection σ]

/-- A connection that does not panic when it is told of an error of the connection returns from
it. -/
theorem stop_announce {t : Turn κ σ δ} {code : ErrorCode} {message : String}
    (h : ∀ s, t.bridge.session = some s → Connection.runsHandedOver s.connection = true →
      ∀ m, .panic m ∉ (Connection.respond s.connection
        (.connectionError (.connection code message))).2) :
    (t.announce (.connection code message)).stop = none := by
  simp only [announce, handOver, notice]
  split
  · rfl
  · rename_i session hsession
    split
    · rename_i hruns
      simp only [tell, record, hsession]
      refine Run.stop_each_of_mem (f := Outlet.step false .connection) fun a ha o => ?_
      cases a with
      | write | handle => rfl
      | panic m => exact absurd ha (h session hsession hruns m)
    · rfl

variable [Decoder δ]

theorem onFrame_of_refusal {t : Turn κ σ δ} {f : Frame} {x : BridgeError}
    (h : t.bridge.refusal? f = some x) : t.onFrame f = t.onException x := by
  unfold Bridge.refusal? at h
  cases hsession : t.bridge.session with
  | some session =>
      rw [hsession] at h
      cases h
  | none =>
      unfold onFrame onEarlyFrame
      rw [hsession] at h ⊢
      cases f with
      | settings s =>
          cases hblueprint : t.bridge.blueprint with
          | some blueprint =>
              rw [hblueprint] at h
              cases h
          | none =>
              rw [hblueprint] at h
              cases h
              rfl
      | headers s hs priority padding ends =>
          cases priority with
          | none | some =>
            cases h
            rfl
      | _ =>
          cases h
          rfl

/-- The ways in which an error comes up that the codec reports, an exception brings or a frame that
comes too early is: the turn in which the connection is about to be told of it, and the run in which
it is handled. -/
inductive Handles (t : Turn κ σ δ) (e : ProtocolError) :
    Turn κ σ δ → Run (Turn κ σ δ) → Prop
  /-- The codec reports the error. -/
  | event :
      Handles t e (({ t with hub := t.hub.arrive t.bridge.id (.error e) } : Turn κ σ δ).meter
        (·.countError .protocol)) (t.route (.error e))
  /-- An exception from outside, or a fault that a write or the codec left. -/
  | exception {x : BridgeError} (hx : x.asProtocolError = e) :
      Handles t e (t.reportException x) (t.onException x)
  /-- A frame comes too early. -/
  | early {f : Frame} {x : BridgeError} (hf : t.bridge.refusal? f = some x)
      (hx : x.asProtocolError = e) :
      Handles t e ((({ t with hub := t.hub.arrive t.bridge.id (.frame f) } : Turn κ σ δ).meter
        Metrics.countInbound).reportException x) (t.route (.frame f))

namespace Handles

variable {t asked : Turn κ σ δ} {e : ProtocolError} {r : Run (Turn κ σ δ)}

/-- Before the connection is told, an error is only counted and noted. -/
theorem asked_eq (h : Handles t e asked r) :
    asked.bridge = t.bridge ∧ asked.hub.journal = t.hub.journal ∧
      asked.hub.scope = t.hub.scope := by
  cases h with
  | event => exact ⟨rfl, rfl, rfl⟩
  | exception =>
      unfold reportException
      split <;> exact ⟨rfl, rfl, rfl⟩
  | early =>
      unfold reportException
      split <;> exact ⟨rfl, rfl, rfl⟩

/-- An error that is handled while the channel is up leads from the connection to the codec, and an
exception then closes the channel once more. -/
theorem run_eq (h : Handles t e asked r) (hup : t.bridge.state.isEnding = false)
    (hopen : t.bridge.channel.closeRequested = false) (hstop : (asked.announce e).stop = none) :
    r = .done ((asked.announce e).state.catchUp.onOutlet (·.react e)) ∨
      r = .done ((asked.announce e).state.catchUp.onOutlet (·.react e)).close := by
  have hnot : ¬ t.bridge.state = .closed := by
    intro hclosed
    rw [hclosed] at hup
    cases hup
  have handled : asked.onError e =
      .done ((asked.announce e).state.catchUp.onOutlet (·.react e)) :=
    Run.andThen_of_done hstop _
  -- An exception is handled in the same way, wherever it comes from.
  have excepted {t' : Turn κ σ δ} {x : BridgeError} (hb : t'.bridge = t.bridge)
      (hasked : asked = t'.reportException x) (hx : x.asProtocolError = e) :
      t'.onException x = .done ((asked.announce e).state.catchUp.onOutlet (·.react e)).close := by
    rw [onException, hb, hup, hopen, Bool.or_false, if_neg Bool.false_ne_true, hx, ← hasked, handled]
    rfl
  cases h with
  | event =>
      left
      rw [route, if_neg hnot]
      exact handled
  | exception hx => exact .inr (excepted rfl rfl hx)
  | @early f x hf hx =>
      right
      let arrived : Turn κ σ δ := { t with hub := t.hub.arrive t.bridge.id (.frame f) }
      have hframe : (arrived.meter Metrics.countInbound).onFrame f = _ := onFrame_of_refusal hf
      rw [route, if_neg hnot]
      exact hframe.trans (excepted rfl rfl hx)

/-- While the connection is told only the connection and the hub change. -/
theorem announce_lasting {H : Hub → Prop} (h : Handles t e asked r)
    (L : Hub.Lasting t.bridge.id H) (hasked : H asked.hub) :
    ∃ session hub, (asked.announce e).state = { bridge := { t.bridge with session }, hub } ∧
      H hub := by
  obtain ⟨hbridge, -, -⟩ := h.asked_eq
  rw [← hbridge] at L ⊢
  exact Turn.announce_lasting asked L e hasked

/-- Telling the connection changes neither the codec nor the channel, which accepts nothing. -/
theorem told (h : Handles t e asked r) :
    (asked.announce e).state.outlet.codec = t.outlet.codec ∧
      (asked.announce e).state.outlet.channel = t.outlet.channel ∧
      (asked.announce e).state.outlet.home = t.bridge.id ∧
      acceptedFrames (asked.announce e).state.hub.journal t.bridge.id =
        acceptedFrames t.hub.journal t.bridge.id := by
  obtain ⟨-, hjournal, -⟩ := h.asked_eq
  obtain ⟨session, hub, htold, haccepted⟩ := h.announce_lasting
    (Hub.lasting_acceptedFrames t.bridge.id (acceptedFrames t.hub.journal t.bridge.id))
    (by rw [hjournal])
  rw [htold]
  exact ⟨rfl, rfl, rfl, haccepted⟩

/-- What the connection asks for when it is told waits behind what waited before. -/
theorem said (h : Handles t e asked r) {left : List Command}
    (hleft : t.hub.scope = some ⟨t.bridge.id, left⟩) :
    ∃ said, (asked.announce e).state.hub.scope = some ⟨t.bridge.id, left ++ said⟩ := by
  obtain ⟨-, -, hscope⟩ := h.asked_eq
  have hnothing : asked.hub.scope = some ⟨t.bridge.id, left ++ []⟩ := by
    rw [hscope, hleft, List.append_nil]
  obtain ⟨session, hub, htold, hsaid⟩ :=
    h.announce_lasting (Hub.lasting_leftWaiting t.bridge.id left) ⟨[], hnothing⟩
  rw [htold]
  exact hsaid

end Handles

end Turn

namespace Turn

variable {σ δ : Type} [Connection σ] [Decoder δ]

namespace Handles

variable {t asked : Turn LineCodec σ δ} {e : ProtocolError} {r : Run (Turn LineCodec σ δ)}

/-- What waits when the connection has been told is gathered in front of the announcement. -/
theorem gathers (h : Handles t e asked r) (hactive : t.bridge.channel.isActive = true) :
    (asked.announce e).state.catchUp.outlet.Gathers t.bridge.id t.bridge.codec.lastRemote
      (acceptedFrames t.hub.journal t.bridge.id)
      (t.bridge.channel.flushed ++ t.bridge.channel.pending) := by
  obtain ⟨hcodec, hchannel, hhome, haccepted⟩ := h.told
  have hnone : (asked.announce e).state.outlet.Gathers t.bridge.id t.bridge.codec.lastRemote
      (acceptedFrames t.hub.journal t.bridge.id)
      (t.bridge.channel.flushed ++ t.bridge.channel.pending) := by
    refine ⟨⟨hhome, ?_, ?_⟩, [], haccepted.trans (List.append_nil _).symm, ?_⟩
    · rw [hchannel]
      exact hactive
    · rw [hcodec]
      rfl
    · rw [hchannel]
      exact (List.append_nil _).symm
  exact (Outlet.rule_gathers _ _ _ _).catchUp (.of [] hnone)

/-- If no write fails, the commands that wait when the connection has been told have their frames
accepted. -/
theorem accepted_of_calm (h : Handles t e asked r) {cs : List Command}
    (hwaits : (asked.announce e).state.hub.scope = some ⟨t.bridge.id, cs⟩)
    (hcalm : (asked.announce e).state.catchUp.outlet.IsCalm) :
    ∃ more, acceptedFrames (asked.announce e).state.catchUp.hub.journal t.bridge.id =
        acceptedFrames t.hub.journal t.bridge.id ++ more ∧
      (cs.map LineCodec.frameOf).Sublist more := by
  obtain ⟨-, -, hhome, haccepted⟩ := h.told
  have hcaught := Outlet.accepted_catchUp (o := (asked.announce e).state.outlet)
    (by rw [hhome]; exact hwaits) hcalm
  rw [hhome] at hcaught
  rw [← haccepted]
  exact hcaught

/-- The error is handled, and ends with the announcement. -/
theorem parted {code : ErrorCode} {message : String}
    (h : Handles t (.connection code message) asked r)
    (hup : t.bridge.state.isEnding = false) (hopen : t.bridge.channel.closeRequested = false)
    (hstop : (asked.announce (.connection code message)).stop = none) {loop : LoopId}
    {last : StreamId} {accepted held : List Outbound}
    (hgathers : (asked.announce (.connection code message)).state.catchUp.outlet.Gathers loop last
      accepted held) :
    ∃ more, acceptedFrames (asked.announce (.connection code message)).state.catchUp.hub.journal
        loop = accepted ++ more ∧
      r.stop = none ∧ r.state.outlet.home = loop ∧
      r.state.outlet.channel.closeRequested = true ∧
      r.state.outlet.Parted (accepted ++ more) (held ++ more)
        (Outlet.farewell last code message) := by
  obtain ⟨⟨hhome, hactive, hlast⟩, more, hmore, hheld⟩ := hgathers
  obtain ⟨hhome', hclosing, hparted⟩ := Outlet.parted_react hactive code message
  rw [hlast, hhome, hmore, hheld] at hparted
  refine ⟨more, hmore, ?_⟩
  rcases h.run_eq hup hopen hstop with rfl | rfl
  · exact ⟨rfl, hhome'.trans hhome, hclosing, hparted⟩
  · exact ⟨rfl, hhome'.trans hhome, rfl, hparted.close⟩

end Handles

/-- When an error of the connection is handled while the channel takes writes, the connection is told
of it, what waits is performed, and then the end is announced by one frame that carries the code of
the error and the last stream of the peer.

* That frame is accepted after all others: those accepted before, and those of the commands that
  waited then and that the connection asked for when it was told.  The latter are accepted unless a
  write fails.
* Nothing is left pending; what was pending is flushed together with it, and in order.
* Whatever happens to the bridge from then on, the channel accepts no frame. -/
theorem farewell_of_handles {b : Builder LineCodec σ δ} {hub : Hub}
    {t asked : Turn LineCodec σ δ} {r : Run (Turn LineCodec σ δ)} {code : ErrorCode}
    {message : String} (hcourse : Course (b.build hub) t)
    (hactive : t.bridge.channel.isActive = true)
    (hhandles : Handles t (.connection code message) asked r)
    (hquiet : ∀ s, t.bridge.session = some s → Connection.runsHandedOver s.connection = true →
      ∀ m, .panic m ∉ (Connection.respond s.connection
        (.connectionError (.connection code message))).2) :
    let told := (asked.announce (.connection code message)).state
    let before := acceptedFrames t.hub.journal t.bridge.id
    let bye := Outlet.farewell t.bridge.codec.lastRemote code message
    r.stop = none ∧ ∃ more,
      acceptedFrames told.catchUp.hub.journal t.bridge.id = before ++ more ∧
      acceptedFrames r.state.hub.journal t.bridge.id = before ++ more ++ [bye] ∧
      (∀ left, t.hub.scope = some ⟨t.bridge.id, left⟩ →
        ∃ said, told.hub.scope = some ⟨t.bridge.id, left ++ said⟩ ∧
          (told.catchUp.bridge.channel.hasFault = false →
            ((left ++ said).map LineCodec.frameOf).Sublist more)) ∧
      r.state.bridge.channel.pending = [] ∧
      r.state.bridge.channel.flushed =
        t.bridge.channel.flushed ++ t.bridge.channel.pending ++ more ++ [bye] ∧
      ∀ later, Course r.state later →
        acceptedFrames later.hub.journal t.bridge.id = before ++ more ++ [bye] := by
  intro told before bye
  obtain ⟨hup, hopen⟩ := (hcourse.upright (b.coherent_build hub).toUpright).isUp hactive
  have hstop : (asked.announce (.connection code message)).stop = none := by
    apply stop_announce
    rw [hhandles.asked_eq.1]
    exact hquiet
  have hgathers := hhandles.gathers hactive
  obtain ⟨more, hmore, hdone, hhome, hrequested, hparted⟩ :=
    hhandles.parted hup hopen hstop hgathers
  have hsilent := hparted.isSilent hrequested
  rw [hhome] at hsilent
  refine ⟨hdone, more, hmore, hsilent.2.2, ?_, hparted.pending, hparted.flushed, ?_⟩
  · intro left hleft
    obtain ⟨said, hsaid⟩ := hhandles.said hleft
    refine ⟨said, hsaid, fun hfault => ?_⟩
    obtain ⟨taken, htaken, hframes⟩ := hhandles.accepted_of_calm hsaid ⟨hgathers.1.2.1, hfault⟩
    have hsame : taken = more := List.append_cancel_left (htaken.symm.trans hmore)
    rw [← hsame]
    exact hframes
  · intro later hlater
    exact (hlater.isSilent hsilent).2.2

end Turn

/-- A bridge whose connection sends headers when it hears of an error of the connection. -/
def parting : Builder LineCodec Script ToyDecoder where
  codec := { lastRemote := .ofNat 7 }
  blueprint :=
    { parts := [⟨.connectionError, [.handle none false (.headers (.id (.ofNat 3)) .empty false)], 1⟩] }

/-- The bridge with its connection. -/
def partingOpen : Turn LineCodec Script ToyDecoder :=
  ((parting.build {}).moves 9
    [.enter .activate, .enter (.event (.frame (.settings .empty)))]).state

/-- Its loop runs, and a push promise waits to be flushed. -/
def partingNow : Turn LineCodec Script ToyDecoder :=
  (partingOpen.entered.program true .connection [.write (.push (.id (.ofNat 1)) .empty)]).state

/-- The error of the connection is about to be told. -/
def partingAsked : Turn LineCodec Script ToyDecoder :=
  let event : Event := .error (.connection .protocolError "late")
  Turn.meter { partingNow with hub := partingNow.hub.arrive partingNow.bridge.id event }
    (·.countError .protocol)

/-- The push promise and the headers of the connection come before the announcement and are flushed
with it, and nothing comes after it. -/
theorem farewell_of_handles_parting :
    let ended := (partingNow.route (.error (.connection .protocolError "late"))).state
    let bye := Outlet.farewell (.ofNat 7) .protocolError "late"
    partingNow.bridge.channel.isActive = true ∧ partingNow.bridge.channel.pending.length = 1 ∧
      ∃ more, [LineCodec.frameOf (.headers (.ofNat 3) .empty false)].Sublist more ∧
        ended.bridge.channel.flushed =
          partingNow.bridge.channel.flushed ++ partingNow.bridge.channel.pending ++ more ++ [bye] ∧
        ∀ later, Turn.Course ended later →
          acceptedFrames later.hub.journal partingNow.bridge.id =
            acceptedFrames partingNow.hub.journal partingNow.bridge.id ++ more ++ [bye] := by
  intro ended bye
  have hopened : ((parting.build {}).moves 9
      [.enter .activate, .enter (.event (.frame (.settings .empty)))]).stop = none := by
    decide +kernel
  have hcourse : Turn.Course (parting.build {}) partingNow :=
    ((Turn.proceeds_moves 9 _ hopened).course.tail (.enter _)).tail
      (.deed (.program [.write (.push (.id (.ofNat 1)) .empty)]))
  have hactive : partingNow.bridge.channel.isActive = true := by decide +kernel
  have hpending : partingNow.bridge.channel.pending.length = 1 := by decide +kernel
  have hlast : partingNow.bridge.codec.lastRemote = .ofNat 7 := by decide +kernel
  have hanswer : partingNow.bridge.session.map (fun s => (Connection.respond s.connection
        (.connectionError (.connection .protocolError "late"))).2) =
      some [.handle none false (.headers (.id (.ofNat 3)) .empty false)] := by decide +kernel
  have hnow : partingNow.hub.scope.map (fun s => (s.loop, s.inline)) =
      some (partingNow.bridge.id, []) := by decide +kernel
  have htold : (partingAsked.announce (.connection .protocolError "late")).state.hub.scope.map
      (·.inline) = some [.headers (.ofNat 3) .empty false] := by decide +kernel
  have hcalm : (partingAsked.announce
      (.connection .protocolError "late")).state.catchUp.bridge.channel.hasFault = false := by
    decide +kernel
  have hquiet : ∀ s, partingNow.bridge.session = some s →
      Connection.runsHandedOver s.connection = true →
      ∀ m, .panic m ∉ (Connection.respond s.connection
        (.connectionError (.connection .protocolError "late"))).2 := by
    intro s hs _ m
    rw [hs, Option.map_some, Option.some.injEq] at hanswer
    rw [hanswer]
    simp
  have hscope : partingNow.hub.scope = some ⟨partingNow.bridge.id, []⟩ := by
    obtain ⟨s, hs, hpair⟩ := Option.map_eq_some_iff.mp hnow
    obtain ⟨hloop, hinline⟩ := Prod.mk.inj hpair
    rw [hs, ← hloop, ← hinline]
  obtain ⟨-, more, -, -, hsaid, -, hflushed, hlater⟩ :=
    Turn.farewell_of_handles hcourse hactive .event hquiet
  rw [hlast] at hflushed hlater
  obtain ⟨said, hwaiting, hframes⟩ := hsaid [] hscope
  have hcommands : [] ++ said = [Command.headers (.ofNat 3) .empty false] := by
    have hwaits := congrArg (Option.map Scope.inline) hwaiting
    exact Option.some.inj (hwaits.symm.trans htold)
  have hsent := hframes hcalm
  rw [hcommands] at hsent
  exact ⟨hactive, hpending, more, hsent, hflushed, hlater⟩

end FrameBridge
