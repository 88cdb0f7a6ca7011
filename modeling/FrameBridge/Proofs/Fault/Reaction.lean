import FrameBridge.Proofs.Fault.Answer
import FrameBridge.Proofs.Fault.Farewell
import FrameBridge.Proofs.Listening.Roster

/-!
# Ahead of the reaction

The codec reacts to an error with a frame of its own.  Ahead of that frame it gets what waited when
the error came up, and then what the connection wrote when it was told of the error.

* `Turn.Faces` lists the ways in which an error comes up.
* `Turn.writes_before_reaction` says what the codec gets, what is accepted and what is flushed.
-/

namespace FrameBridge

/-- A listener that reports a violation hands nothing on. -/
theorem Listener.frames_of_error {δ : Type} [Decoder δ] {l : Listener δ} {f : Frame}
    {e : ProtocolError} (h : (l.process f).error = some e) : (l.process f).frames = [] := by
  obtain ⟨s, encoding, d, cause, -, -, -, hreply, -⟩ := l.failsOn_of_error (h := .frame f) h
  exact congrArg Reply.frames hreply

namespace Outlet

/-- As long as the channel is open, what was flushed stays in front. -/
theorem steady_flushed {κ : Type} (sent : List Outbound) :
    Steady fun o : Outlet κ => o.channel.isOpen = true → sent <+: o.channel.flushed where
  hub o := Hub.law_of_constant (o.channel.isOpen = true → sent <+: o.channel.flushed)
  aside _ h := h
  codec _ _ h := h
  buffer _ _ _ h := h
  flush h hopen := (h hopen).trans (List.prefix_append _ _)
  requestClose h := h
  leaveWord _ _ _ h := h
  markInactive _ := nofun
  take h := h

end Outlet

namespace Turn

variable {κ σ δ : Type} [Codec κ] [Connection σ] [Decoder δ] {t asked : Turn κ σ δ}
  {e : ProtocolError} {r : Run (Turn κ σ δ)}

/-- All ways in which an error comes up: to those in which it is handled as such a body is added that
cannot be decoded, where the connection may have been told of more before. -/
inductive Faces (t : Turn κ σ δ) (e : ProtocolError) : Turn κ σ δ → Run (Turn κ σ δ) → Prop
  /-- The codec reports it, or it comes of an exception. -/
  | handles {asked : Turn κ σ δ} {r : Run (Turn κ σ δ)} (h : Handles t e asked r) :
      Faces t e asked r
  /-- A body cannot be decoded. -/
  | body {session : Session σ δ} {l : Listener δ} {f : Frame}
      (hsession : t.bridge.session = some session) (hlistener : session.listener = some l)
      (herror : (l.process f).error = some e) :
      Faces t e (((({ t with hub := t.hub.arrive t.bridge.id (.frame f) } : Turn κ σ δ).meter
        Metrics.countInbound).afterListening session (f.stream?.getD .connection)
          (l.process f)).meter (·.countError .protocol)) (t.route (.frame f))

/-- A turn in which the connection is about to be told of something that came up: the connection is
the same, and nothing that writes concern has changed. -/
structure Asks (t asked : Turn κ σ δ) : Prop where
  bridge : ∃ session, asked.bridge = { t.bridge with session }
  handed : ∀ c, asked.handed c = t.handed c
  mailboxes : asked.hub.mailboxes = t.hub.mailboxes
  scope : asked.hub.scope = t.hub.scope
  reactions : asked.hub.reactions = t.hub.reactions
  calls : asked.hub.codecCalls t.bridge.id = t.hub.codecCalls t.bridge.id
  accepted : acceptedFrames asked.hub.journal t.bridge.id =
    acceptedFrames t.hub.journal t.bridge.id

omit [Codec κ] [Decoder δ] in
theorem asks_afterListening {session : Session σ δ} (hsession : t.bridge.session = some session)
    (s : StreamId) (p : Processed δ) : t.Asks (t.afterListening session s p) := by
  let heard : Session σ δ := { session with listener := p.listener }
  have hhanded (c : Callback) (hub : Hub) :
      handed { bridge := { t.bridge with session := some heard }, hub } c = t.handed c := by
    simp only [handed, hsession]
    rfl
  unfold afterListening
  cases hasked : p.asked with
  | none => exact ⟨⟨some heard, rfl⟩, fun c => hhanded c _, rfl, rfl, rfl, rfl, rfl⟩
  | some encoding =>
      have hcalls := reported_cons_of_none Entry.called? (r := ⟨t.bridge.id, .asked encoding⟩) rfl
        t.hub.journal t.bridge.id
      have haccepted := reported_cons_of_none Entry.accepted?
        (r := ⟨t.bridge.id, .asked encoding⟩) rfl t.hub.journal t.bridge.id
      simp only
      split
      · exact ⟨⟨some heard, rfl⟩, fun c => hhanded c _, rfl, rfl, rfl, hcalls, haccepted⟩
      · exact ⟨⟨some heard, rfl⟩, fun c => hhanded c _, rfl, rfl, rfl, hcalls, haccepted⟩

namespace Faces

theorem asks (h : Faces t e asked r) : t.Asks asked := by
  have same {t' : Turn κ σ δ} (hbridge : t'.bridge = t.bridge) (hmailboxes : t'.hub.mailboxes =
      t.hub.mailboxes) (hscope : t'.hub.scope = t.hub.scope) (hreactions : t'.hub.reactions =
      t.hub.reactions) (hjournal : t'.hub.journal = t.hub.journal) : t.Asks t' :=
    ⟨⟨t.bridge.session, hbridge⟩, fun c => by simp only [handed, hbridge], hmailboxes, hscope,
      hreactions, congrArg (reported Entry.called? · t.bridge.id) hjournal,
      congrArg (acceptedFrames · t.bridge.id) hjournal⟩
  cases h with
  | handles h =>
      cases h with
      | event => exact same rfl rfl rfl rfl rfl
      | exception =>
          unfold reportException
          split <;> exact same rfl rfl rfl rfl rfl
      | early =>
          unfold reportException
          split <;> exact same rfl rfl rfl rfl rfl
  | @body session l f hsession hlistener herror =>
      let arrived : Turn κ σ δ :=
        ({ t with hub := t.hub.arrive t.bridge.id (.frame f) } : Turn κ σ δ).meter
          Metrics.countInbound
      obtain ⟨hbridge, hhanded, hmailboxes, hscope, hreactions, hcalls, haccepted⟩ :=
        asks_afterListening (t := arrived) hsession (f.stream?.getD .connection) (l.process f)
      exact ⟨hbridge, hhanded, hmailboxes, hscope, hreactions, hcalls, haccepted⟩

/-- An error that is handled while the channel is up leads from the connection to the codec; an
exception then closes the channel. -/
theorem run_eq (h : Faces t e asked r) (hup : t.bridge.state.isEnding = false)
    (hopen : t.bridge.channel.closeRequested = false) (hstop : (asked.announce e).stop = none) :
    r = .done ((asked.announce e).state.catchUp.onOutlet (·.react e)) ∨
      r = .done ((asked.announce e).state.catchUp.onOutlet (·.react e)).close := by
  cases h with
  | handles h => exact h.run_eq hup hopen hstop
  | @body session l f hsession hlistener herror =>
      left
      have hnot : ¬ t.bridge.state = .closed := by
        intro hclosed
        rw [hclosed] at hup
        cases hup
      let arrived : Turn κ σ δ :=
        ({ t with hub := t.hub.arrive t.bridge.id (.frame f) } : Turn κ σ δ).meter
          Metrics.countInbound
      let heard := arrived.afterListening session (f.stream?.getD .connection) (l.process f)
      let violated := heard.meter (·.countError .protocol)
      -- The listener hands no frame on, so that nothing is told before the error.
      have hframe : arrived.onFrame f = violated.onError e := by
        have hpresent : arrived.bridge.session = some session := hsession
        have hframes : (l.process f).frames = [] := Listener.frames_of_error herror
        rw [onFrame]
        simp only [hpresent, hlistener, hframes, herror, Run.each, Run.andThen_done]
        rfl
      have handled : violated.onError e =
          .done ((violated.announce e).state.catchUp.onOutlet (·.react e)) :=
        Run.andThen_of_done hstop _
      rw [route, if_neg hnot]
      exact hframe.trans handled

/-- When the connection has been told, what it wrote waits behind what waited before.  Neither the
codec nor the channel has noticed anything. -/
theorem told (h : Faces t e asked r) {left : List Command}
    (hvalid : t.bridge.id.index < t.hub.mailboxes.length)
    (hscope : t.hub.scope = some ⟨t.bridge.id, left⟩)
    (hown : ∀ a ∈ t.answer e, a.IsOwnUse t.bridge.id) :
    let now := e.callback.currentStream
    let issued := (t.freshLog.program now (t.answer e)).outgoings
    ∃ session hub said,
      asked.announce e = .done { bridge := { t.bridge with session }, hub } ∧
      hub.scope = some ⟨t.bridge.id, left ++ said⟩ ∧
      issued.Sublist (said.map (·.outgoing)) ∧
      ((∀ label ∈ t.freshLog.refusals now (t.answer e), ∀ r ∈ t.hub.reactions, r.label ≠ label) →
        said.map (·.outgoing) = issued) ∧
      hub.codecCalls t.bridge.id = t.hub.codecCalls t.bridge.id ∧
      acceptedFrames hub.journal t.bridge.id = acceptedFrames t.hub.journal t.bridge.id := by
  obtain ⟨⟨session₀, hbridge⟩, hhanded, hmailboxes, hsame, hreactions, hcalls, haccepted⟩ := h.asks
  have hid : asked.bridge.id = t.bridge.id := by rw [hbridge]
  have hanswer : asked.answer e = t.answer e := hhanded e.callback
  have hlog : asked.freshLog = t.freshLog := by simp only [freshLog, Hub.mailbox, hid, hmailboxes]
  have hwaits : asked.hub.scope = some ⟨asked.bridge.id, left⟩ := by rw [hsame, hscope, hid]
  obtain ⟨session, hub, hannounce, hissued⟩ := issued_announce (t := asked) (e := e)
    (by rw [hid, hmailboxes]; exact hvalid) hwaits (by rw [hid, hanswer]; exact hown)
  rw [hanswer, hlog, hreactions, hid] at hissued
  obtain ⟨-, -, said, hsaid, hissued, hexact⟩ := hissued
  -- What lasts while something is told without a writer is carried over to this hub.
  have kept {H : Hub → Prop} (L : Hub.Lasting t.bridge.id H) (hH : H asked.hub) : H hub := by
    rw [← hid] at L
    obtain ⟨session', hub', hstate, hlast⟩ := Turn.announce_lasting asked L e hH
    rw [hannounce] at hstate
    obtain rfl : hub = hub' := congrArg Turn.hub hstate
    exact hlast
  refine ⟨session, hub, said, by rw [hannounce, hbridge], hsaid, hissued, fun h => (hexact h).2, ?_,
    kept (Hub.lasting_acceptedFrames _ _) haccepted⟩
  have hstands : asked.hub.Stands t.bridge.id left (t.hub.codecCalls t.bridge.id) :=
    ⟨⟨[], by rw [hsame, hscope, List.append_nil]⟩, hcalls⟩
  exact (kept (Hub.lasting_stands _ _ _) hstands).2

/-- An error that is handled while the channel is up ends with what the codec does about it, and
perhaps a close. -/
theorem ends (h : Faces t e asked r) (hup : t.bridge.state.isEnding = false)
    (hopen : t.bridge.channel.closeRequested = false) (hstop : (asked.announce e).stop = none) :
    r.stop = none ∧ ∀ {p : Outlet κ → Prop}, (∀ o, p o → p o.close) →
      p ((asked.announce e).state.catchUp.outlet.react e) → p r.state.outlet := by
  rcases h.run_eq hup hopen hstop with rfl | rfl
  · exact ⟨rfl, fun _ hp => hp⟩
  · exact ⟨rfl, fun hclose hp => hclose ((asked.announce e).state.catchUp.outlet.react e) hp⟩

end Faces

/-- When an error is handled while the channel takes writes, the connection is told of it, what
waits is performed, and then the codec reacts.  Say that the connection, if there is one, answers
with any uses of the handle of its bridge, and that no fault is at the channel when what waits has
been performed: no earlier one was left there, and none of the commands failed.  Then

* the codec gets what waited when the error came up, what the connection wrote in the order of issue,
  and its own reaction, and nothing else; only code that waits for a push promise that was refused
  at once may add to what the connection wrote;
* all frames that the codec writes for these commands are accepted, in this order;
* unless the codec takes the reaction into its own hands, it reacts with a reset or a go-away, whose
  frame is accepted after the others, and all that was held is flushed together with it, push
  promises included.

What is flushed stays so until the entry returns, as long as the channel is open. -/
theorem writes_before_reaction {b : Builder κ σ δ} {hub : Hub} {left : List Command}
    (hwrites : Codec.KeepsOpen κ) (hcourse : Course (b.build hub) t)
    (hactive : t.bridge.channel.isActive = true)
    (hvalid : t.bridge.id.index < t.hub.mailboxes.length)
    (hscope : t.hub.scope = some ⟨t.bridge.id, left⟩) (hfaces : Faces t e asked r)
    (hown : ∀ a ∈ t.answer e, a.IsOwnUse t.bridge.id)
    (hcalm : (asked.announce e).state.catchUp.bridge.channel.hasFault = false) :
    let told := (asked.announce e).state
    let codec := told.catchUp.bridge.codec
    let now := e.callback.currentStream
    let issued := (t.freshLog.program now (t.answer e)).outgoings
    let before := acceptedFrames t.hub.journal t.bridge.id
    r.stop = none ∧ ∃ said made frames,
      told.hub.scope = some ⟨t.bridge.id, left ++ said⟩ ∧
      issued.Sublist (said.map (·.outgoing)) ∧
      ((∀ label ∈ t.freshLog.refusals now (t.answer e), ∀ r ∈ t.hub.reactions, r.label ≠ label) →
        said.map (·.outgoing) = issued) ∧
      IsTranscript ((left ++ said).map .write) made ∧
      r.state.hub.codecCalls t.bridge.id =
        t.hub.codecCalls t.bridge.id ++ made ++ [Codec.reactionTo codec e] ∧
      (frames, codec) = Codec.writtenAll t.bridge.codec (left ++ said) ∧
      acceptedFrames told.catchUp.hub.journal t.bridge.id = before ++ frames ∧
      (Codec.ownReaction codec e = none →
        let last := (Codec.encode codec (Codec.usualReaction codec e) .void).frames
        let sent := t.bridge.channel.flushed ++ t.bridge.channel.pending ++ frames ++ last
        Codec.reactionTo codec e = .encode (Codec.usualReaction codec e) ∧
        acceptedFrames r.state.hub.journal t.bridge.id = before ++ frames ++ last ∧
        r.state.bridge.channel.pending = [] ∧ r.state.bridge.channel.flushed = sent ∧
        ∀ u, Chain r.state u → u.state.bridge.channel.isOpen = true →
          sent <+: u.state.bridge.channel.flushed) := by
  obtain ⟨hup, hrequested⟩ := (hcourse.upright (b.coherent_build hub).toUpright).isUp hactive
  obtain ⟨session, hub', said, hannounce, hsaid, hissued, hexact, hcalls, haccepted⟩ :=
    hfaces.told hvalid hscope hown
  obtain ⟨hdone, hend⟩ := hfaces.ends hup hrequested (congrArg Run.stop hannounce)
  rw [hannounce] at hcalm hend ⊢
  intro told codec now issued before
  have hwaits : told.outlet.hub.scope = some ⟨told.outlet.home, left ++ said⟩ := hsaid
  -- Catching up: no command fails, so each is written, and its frames are taken in.
  have htold : told.outlet.channel.isActive = true := hactive
  have hcaught : told.outlet.catchUp.IsCalm :=
    ⟨(Outlet.rule_isActive hwrites).catchUp (.of [] htold), hcalm⟩
  obtain ⟨made, hmade, hperformed⟩ := Outlet.hasCalled_catchUp hwaits hcaught ⟨rfl, hcalls⟩
  obtain ⟨htook, hcodec⟩ := Outlet.took_catchUp hwrites hwaits hcaught
  -- The reaction: a close that may follow it adds nothing.
  have hreacted : r.state.outlet.HasCalled t.bridge.id
      (t.hub.codecCalls t.bridge.id ++ made ++ [Codec.reactionTo codec e]) :=
    hend (fun _ => Outlet.hasCalled_close) (Outlet.hasCalled_react e hperformed)
  let frames := (Codec.writtenAll t.bridge.codec (left ++ said)).1
  have hframes : acceptedFrames told.catchUp.hub.journal t.bridge.id = before ++ frames := by
    rw [show before = acceptedFrames hub'.journal t.bridge.id from haccepted.symm]
    exact htook.accepted
  refine ⟨hdone, said, made, frames, hsaid, hissued, hexact, hmade, hreacted.2,
    Prod.ext rfl hcodec, hframes, ?_⟩
  intro husual last sent
  have hspent : r.state.outlet.Spent (before ++ frames ++ last) sent := by
    refine hend (fun _ h => h.close) ?_
    have hspent := (Outlet.spent_react (o := told.catchUp.outlet) hwrites htook.active husual).2
    have hhome : told.catchUp.outlet.home = t.bridge.id := htook.home
    have hheld : told.catchUp.outlet.channel.flushed ++ told.catchUp.outlet.channel.pending =
        t.bridge.channel.flushed ++ t.bridge.channel.pending ++ frames := htook.held
    have hbefore : acceptedFrames told.catchUp.outlet.hub.journal t.bridge.id =
        before ++ frames := hframes
    rw [hheld, hhome, hbefore] at hspent
    exact hspent
  refine ⟨?_, ?_, hspent.pending, hspent.flushed, fun u hu => ?_⟩
  · unfold Codec.reactionTo
    rw [husual]
    cases e <;> rfl
  · rw [← hreacted.1]
    exact hspent.accepted
  · refine hu.keeps (P := fun t => t.bridge.channel.isOpen = true → sent <+: t.bridge.channel.flushed)
      (Outlet.steady_flushed sent).deed fun _ => ?_
    exact (congrArg (sent <+: ·) hspent.flushed).mpr (List.prefix_refl sent)

end Turn

/-- A bridge whose connection sends headers and promises a stream when it hears of an error of a
stream. -/
def replying : Builder LineCodec Script ToyDecoder where
  codec := {}
  blueprint :=
    { parts := [⟨.streamError,
        [.handle none false (.headers (.id (.ofNat 3)) .empty false),
          .handle none false (.push (.id (.ofNat 3)) .empty .future "p")], 1⟩] }

/-- The bridge with its connection. -/
def replyingOpen : Turn LineCodec Script ToyDecoder :=
  ((replying.build {}).moves 9
    [.enter .activate, .enter (.event (.frame (.settings .empty)))]).state

/-- Its loop runs, a push promise waits to be flushed, and headers wait to be written. -/
def replyingNow : Turn LineCodec Script ToyDecoder :=
  (replyingOpen.entered.program true .connection
    [.write (.push (.id (.ofNat 1)) .empty),
      .handle none false (.headers (.id (.ofNat 1)) .empty true)]).state

/-- The error of the stream is about to be told. -/
def replyingAsked : Turn LineCodec Script ToyDecoder :=
  let event : Event := .error (.stream (.ofNat 1) .protocolError "bad")
  Turn.meter { replyingNow with hub := replyingNow.hub.arrive replyingNow.bridge.id event }
    (·.countError .protocol)

/-- What waited comes first, then what the connection wrote, then the reset; all of it is flushed. -/
theorem writes_before_reaction_replying :
    let ended := (replyingNow.route (.error (.stream (.ofNat 1) .protocolError "bad"))).state
    let id := replyingNow.bridge.id
    replyingNow.bridge.channel.isActive = true ∧ replyingNow.bridge.channel.pending.length = 1 ∧
      ended.hub.codecCalls id = replyingNow.hub.codecCalls id ++
        [.encode (.headers (.ofNat 1) .empty 0 true), .encode (.headers (.ofNat 3) .empty 0 false),
          .encode (.pushPromise (.ofNat 3) (.ofNat 4) .empty 0),
          .encode (.reset (.ofNat 1) .protocolError)] ∧
      ended.bridge.channel.pending = [] ∧
      ∃ frames, frames.length = 4 ∧
        acceptedFrames ended.hub.journal id =
          acceptedFrames replyingNow.hub.journal id ++ frames ∧
        ∀ u, Turn.Chain ended u → u.state.bridge.channel.isOpen = true →
          replyingNow.bridge.channel.flushed ++ replyingNow.bridge.channel.pending ++ frames <+:
            u.state.bridge.channel.flushed := by
  intro ended id
  let e : ProtocolError := .stream (.ofNat 1) .protocolError "bad"
  have hopened : ((replying.build {}).moves 9
      [.enter .activate, .enter (.event (.frame (.settings .empty)))]).stop = none := by
    decide +kernel
  have hcourse : Turn.Course (replying.build {}) replyingNow :=
    ((Turn.proceeds_moves 9 _ hopened).course.tail (.enter _)).tail (.deed (.program _))
  have hactive : replyingNow.bridge.channel.isActive = true := by decide +kernel
  have hpending : replyingNow.bridge.channel.pending.length = 1 := by decide +kernel
  have hvalid : replyingNow.bridge.id.index < replyingNow.hub.mailboxes.length := by
    decide +kernel
  have hnow : replyingNow.hub.scope.map (fun s => (s.loop, s.inline)) =
      some (id, [.headers (.ofNat 1) .empty true]) := by decide +kernel
  have hanswer : replyingNow.answer e =
      [.handle none false (.headers (.id (.ofNat 3)) .empty false),
        .handle none false (.push (.id (.ofNat 3)) .empty .future "p")] := by decide +kernel
  have hissued : (replyingNow.freshLog.program e.callback.currentStream
      (replyingNow.answer e)).outgoings =
        [.headers (.ofNat 3) .empty 0 false, .pushPromise (.ofNat 3) (.ofNat 4) .empty 0] := by
    decide +kernel
  have hrefused : replyingNow.freshLog.refusals e.callback.currentStream
      (replyingNow.answer e) = [] := by decide +kernel
  have hcalm : (replyingAsked.announce e).state.catchUp.bridge.channel.hasFault = false := by
    decide +kernel
  have hscope : replyingNow.hub.scope = some ⟨id, [.headers (.ofNat 1) .empty true]⟩ := by
    obtain ⟨s, hs, hpair⟩ := Option.map_eq_some_iff.mp hnow
    obtain ⟨hloop, hinline⟩ := Prod.mk.inj hpair
    rw [hs, ← hloop, ← hinline]
  have hown : ∀ a ∈ replyingNow.answer e, a.IsOwnUse id := by
    rw [hanswer]
    simp [Action.IsOwnUse]
  have hfaces : Turn.Faces replyingNow e replyingAsked (replyingNow.route (.error e)) :=
    .handles .event
  obtain ⟨-, said, made, frames, -, -, hexact, hmade, hcalls, -, haccepted, hreaction⟩ :=
    Turn.writes_before_reaction LineCodec.leavesClosing.keepsOpen hcourse hactive hvalid hscope
      hfaces hown hcalm
  obtain ⟨hreset, hall, hdone, -, hkept⟩ := hreaction rfl
  let codec := (replyingAsked.announce e).state.catchUp.bridge.codec
  have hcount : (acceptedFrames (replyingAsked.announce e).state.catchUp.hub.journal id).length =
      (acceptedFrames replyingNow.hub.journal id).length + 3 := by decide +kernel
  have hlast : (Codec.encode codec (Codec.usualReaction codec e) .void).frames.length = 1 := by
    decide +kernel
  have hsaid : ([Command.headers (.ofNat 1) .empty true] ++ said).map (·.outgoing) =
      [.headers (.ofNat 1) .empty 0 true, .headers (.ofNat 3) .empty 0 false,
        .pushPromise (.ofNat 3) (.ofNat 4) .empty 0] := by
    rw [List.map_append, hexact (by rw [hrefused]; exact nofun), hissued]
    rfl
  have hmade := hmade.encodes (by rw [hsaid]; simp)
  rw [hsaid] at hmade
  rw [hmade, hreset, List.append_assoc] at hcalls
  refine ⟨hactive, hpending, hcalls, hdone, _, ?_, hall.trans (List.append_assoc ..), ?_⟩
  · rw [haccepted, List.length_append] at hcount
    rw [List.length_append, hlast, Nat.add_left_cancel hcount]
  · intro u hu hopen
    rw [← List.append_assoc]
    exact hkept u hu hopen

/-- The connection is told while a fault waits that nobody has handled.  Then the codec gets nothing
of what the connection wrote, although no command fails, and goes on to its reactions. -/
theorem writes_refused_behind_fault :
    let e : ProtocolError := .stream (.ofNat 1) .protocolError "bad"
    let fault : ProtocolError := .connection .internalError "window"
    let waiting := replyingOpen.onChannel (·.raise (.protocol fault))
    let ended := waiting.handleEvent 9 (.error e)
    let id := waiting.bridge.id
    waiting.bridge.channel.isActive = true ∧
      waiting.answer e = [.handle none false (.headers (.id (.ofNat 3)) .empty false),
        .handle none false (.push (.id (.ofNat 3)) .empty .future "p")] ∧
      ended.stop = none ∧
      ended.state.hub.codecCalls id = waiting.hub.codecCalls id ++
        [.encode (.reset (.ofNat 1) .protocolError),
          .encode (.goAway (.ofNat 0) .internalError (Bytes.ofText fault.display))] := by
  exact ⟨by decide +kernel, by decide +kernel, by decide +kernel, rfl⟩

end FrameBridge
