import FrameBridge.Proofs.Delivery.Waiting
import FrameBridge.Proofs.Entry.Stance
import FrameBridge.Proofs.Fault.Leftover
import FrameBridge.Proofs.Fault.Silence
import FrameBridge.Proofs.Issue.Order

/-!
# What a close cuts off

Application code that closes its writer takes its channel out of use at once.  Commands that wait
in the inline queue by then are refused later on, and push promises that were not flushed wait for
a flush that need not come.  Everything else that was issued before the close is accepted and
flushed.

* `Outlet.WritesThrough`: as long as the channel takes writes it accepts every line of its codec.
* `Outlet.IsCutOff`: what becomes of a channel that takes no writes any more.
* `Turn.writes_before_close` puts both together for application code that ends with a close.
-/

namespace FrameBridge

namespace Outlet

/-! ### Before the close -/

/-- The channel of a loop takes writes.  Since the codec had been called so far, and some frames
were accepted and others held, each line that the codec wrote was accepted and is held. -/
def WritesThrough (loop : LoopId) (calls : List CodecCall) (accepted held : List Outbound)
    (o : Outlet LineCodec) : Prop :=
  (o.home = loop ∧ o.channel.isActive = true) ∧
    ∃ made more, o.hub.codecCalls loop = calls ++ made ∧
      more.map (·.bytes) = made.flatMap LineCodec.linesOf ∧
      acceptedFrames o.hub.journal loop = accepted ++ more ∧
      o.channel.flushed ++ o.channel.pending = held ++ more

namespace WritesThrough

variable {loop : LoopId} {calls : List CodecCall} {accepted held : List Outbound}
  {o : Outlet LineCodec}

/-- A call without a line. -/
theorem called (h : WritesThrough loop calls accepted held o) (codec : LineCodec)
    {call : CodecCall} (hline : LineCodec.linesOf call = []) :
    WritesThrough loop calls accepted held { o.record (.codec call) with codec } := by
  obtain ⟨⟨rfl, hactive⟩, made, more, hcalls, hlines, haccepted, hheld⟩ := h
  refine ⟨⟨rfl, hactive⟩, made ++ [call], more, ?_, ?_, ?_, hheld⟩
  · rw [← List.append_assoc, ← hcalls]
    exact o.hub.codecCalls_record o.home (.codec call)
  · simp only [List.flatMap_append, List.flatMap_cons, List.flatMap_nil, hline, List.append_nil,
      hlines]
  · exact (reported_cons_of_none Entry.accepted? rfl o.hub.journal o.home).trans haccepted

/-- A call with a line, which the channel accepts. -/
theorem take (h : WritesThrough loop calls accepted held o) (codec : LineCodec) {call : CodecCall}
    {f : Outbound} (hline : LineCodec.linesOf call = [f.bytes]) :
    WritesThrough loop calls accepted held ({ o.record (.codec call) with codec }.accept f) := by
  obtain ⟨⟨rfl, hactive⟩, made, more, hcalls, hlines, haccepted, hheld⟩ := h
  rw [accept_of_isActive (o := { o.record (.codec call) with codec }) hactive f]
  refine ⟨⟨rfl, hactive⟩, made ++ [call], more ++ [f], ?_, ?_, ?_, ?_⟩
  · have hcalled := o.hub.codecCalls_record o.home (.codec call)
    rw [hcalls, List.append_assoc] at hcalled
    exact (reported_cons_of_none Entry.called? rfl _ o.home).trans hcalled
  · simp only [List.map_append, List.map_cons, List.map_nil, List.flatMap_append,
      List.flatMap_cons, List.flatMap_nil, List.append_nil, hlines, hline]
  · have hcalled : acceptedFrames (o.record (.codec call)).hub.journal o.home = accepted ++ more :=
      (reported_cons_of_none Entry.accepted? rfl o.hub.journal o.home).trans haccepted
    have htaken := reported_cons Entry.accepted? ⟨o.home, .accepted f⟩
      (o.record (.codec call)).hub.journal o.home
    rw [if_pos rfl] at htaken
    rw [← List.append_assoc, ← hcalled]
    exact htaken
  · show o.channel.flushed ++ (o.channel.pending ++ [f]) = held ++ (more ++ [f])
    rw [← List.append_assoc, hheld, List.append_assoc]

/-- Notifications wait behind the channel. -/
theorem notifies (h : WritesThrough loop calls accepted held o) {rs : List ChannelRequest}
    (hrs : ∀ r ∈ rs, ∃ e, r = .notify e) :
    WritesThrough loop calls accepted held (rs.foldl carryOut o) := by
  refine List.foldlRecOn rs _ h ?_
  intro o ho r hr
  obtain ⟨e, rfl⟩ := hrs r hr
  exact ho

end WritesThrough

/-- As long as the channel is not closed every line is written through, whatever fails. -/
theorem law_writesThrough (loop : LoopId) (calls : List CodecCall)
    (accepted held : List Outbound) :
    CallLaw (fun _ => True) (Regardless (WritesThrough loop calls accepted held)) where
  hub o := by
    refine (Hub.law_of_constant (o.home = loop ∧ o.channel.isActive = true)).and
      (Hub.law_journal (p := fun j => ∃ (made : List CodecCall) (more : List Outbound),
        reported Entry.called? j loop = calls ++ made ∧
        more.map (·.bytes) = made.flatMap LineCodec.linesOf ∧
        acceptedFrames j loop = accepted ++ more ∧
        o.channel.flushed ++ o.channel.pending = held ++ more) ?_)
    rintro r j hr ⟨made, more, hcalls, hlines, haccepted, hheld⟩
    have hcalls' := reported_cons_of_none Entry.called? (Entry.called?_of_isEcho hr) j loop
    have haccepted' := reported_cons_of_none Entry.accepted? (Entry.accepted?_of_isEcho hr) j loop
    exact ⟨made, more, hcalls'.trans hcalls, hlines, haccepted'.trans haccepted, hheld⟩
  good_of_waiting _ _ _ := trivial
  take {ps o} h := by
    obtain ⟨s, hs⟩ := o.hub.takeInline_eq
    rw [hs]
    exact h
  encode {c ps o} _ h := by
    have hline : LineCodec.linesOf (.encode c.outgoing) = [(LineCodec.frameOf c).bytes] := rfl
    have htaken := WritesThrough.take (o := o) h
      { o.codec with openStreams := o.codec.openAfter c.outgoing } hline
    have hrest : ∀ r ∈ o.codec.aftermath c.outgoing, ∃ e, r = .notify e :=
      fun r hr => LineCodec.notify_of_mem_aftermath hr
    have hencoded := htaken.notifies hrest
    exact hencoded
  call {α describe s ps o} hs h := by
    show WritesThrough loop calls accepted held (s.requests.foldl carryOut _)
    rw [LineCodec.requests_of_isAnswer hs]
    rcases LineCodec.linesOf_cases (describe s.result) with hnone | ⟨bytes, hline⟩
    · rw [hnone]
      exact WritesThrough.called h s.codec hnone
    · rw [hline]
      exact WritesThrough.take (f := ⟨bytes, .void⟩) h s.codec hline
  flush {ps o} h := by
    obtain ⟨hup, made, more, hcalls, hlines, haccepted, hheld⟩ := h
    have hcalls' := reported_cons_of_none Entry.called? (r := ⟨o.home, .flushed⟩) rfl
      o.hub.journal loop
    have haccepted' := reported_cons_of_none Entry.accepted? (r := ⟨o.home, .flushed⟩) rfl
      o.hub.journal loop
    exact ⟨hup, made, more, hcalls'.trans hcalls, hlines, haccepted'.trans haccepted,
      (List.append_nil _).trans hheld⟩
  raise _ _ _ h := h

/-! ### After the close -/

/-- The channel of a loop accepted these frames and accepts none now.  Unless it is shut, the frames
that it had pending are pending still, or all of them were flushed. -/
def IsCutOff (loop : LoopId) (sent flushed pending : List Outbound) (o : Outlet LineCodec) : Prop :=
  o.IsSilent loop sent ∧ (o.channel.isOpen = true →
    (o.channel.flushed = flushed ∧ o.channel.pending = pending) ∨
    (o.channel.flushed = flushed ++ pending ∧ o.channel.pending = []))

/-- Whatever is done to a channel that accepts no frames, what it holds is flushed at most. -/
theorem steady_isCutOff (loop : LoopId) (sent flushed pending : List Outbound) :
    Steady (IsCutOff loop sent flushed pending) where
  hub o := ((steady_isSilent loop sent).hub o).and (Hub.law_of_constant (o.channel.isOpen = true →
    (o.channel.flushed = flushed ∧ o.channel.pending = pending) ∨
    (o.channel.flushed = flushed ++ pending ∧ o.channel.pending = [])))
  aside ha hp := ⟨(steady_isSilent loop sent).aside ha hp.1, hp.2⟩
  codec c _ hp := ⟨(steady_isSilent loop sent).codec c hp.1, hp.2⟩
  buffer _ _ hactive hp := absurd (hactive.symm.trans hp.1.2.1) Bool.noConfusion
  flush {o} hp := by
    refine ⟨(steady_isSilent loop sent).flush hp.1, fun hopen => .inr ⟨?_, rfl⟩⟩
    show o.channel.flushed ++ o.channel.pending = flushed ++ pending
    rcases hp.2 hopen with ⟨hflushed, hpending⟩ | ⟨hflushed, hpending⟩
    · rw [hflushed, hpending]
    · rw [hflushed, hpending, List.append_nil]
  requestClose hp := ⟨(steady_isSilent loop sent).requestClose hp.1, hp.2⟩
  leaveWord faults notifications _ hp :=
    ⟨(steady_isSilent loop sent).leaveWord faults notifications hp.1, hp.2⟩
  markInactive hp := ⟨(steady_isSilent loop sent).markInactive hp.1, nofun⟩
  take hp := ⟨(steady_isSilent loop sent).take hp.1, hp.2⟩

/-- A channel that takes writes is cut off by a close. -/
theorem WritesThrough.isCutOff {loop : LoopId} {calls : List CodecCall}
    {accepted held : List Outbound} {o : Outlet LineCodec}
    (h : WritesThrough loop calls accepted held o) :
    o.close.IsCutOff loop (acceptedFrames o.hub.journal loop) o.channel.flushed
      o.channel.pending := by
  refine ⟨⟨h.1.1, o.channel.isActive_requestClose, ?_⟩, fun _ => .inl ⟨rfl, rfl⟩⟩
  unfold Outlet.close
  split <;> rfl

/-! ### Nothing is cut off behind a write that is flushed -/

theorem pending_perform {κ : Type} [Codec κ] {o : Outlet κ} (h : o.IsCalm) {c : Command}
    (hc : ∀ s promised hs p, c ≠ .pushPromise s promised hs p) :
    (o.perform c).channel.pending = [] := by
  rw [perform_of_isCalm h]
  cases c with
  | pushPromise s promised hs p => exact absurd rfl (hc s promised hs p)
  | data s d ends =>
      simp only [afterEncoding]
      split <;> rfl
  | headers | ping | frame | reset | goAway | settings => rfl

end Outlet

theorem IssueLog.refusals_append (now : StreamId) (l : IssueLog) (as bs : List Action) :
    l.refusals now (as ++ bs) = l.refusals now as ++ (l.program now as).refusals now bs := by
  induction as generalizing l with
  | nil => rfl
  | cons a as ih =>
      rw [List.cons_append, refusals, ih, refusals, List.append_assoc]
      rfl

/-- The writer flushes what the action writes. -/
def WriterAction.isFlushed : WriterAction → Bool
  | .headers .. | .data .. | .ping .. | .frame .. | .reset .. | .goAway .. | .settings .. => true
  | .consume .. | .push .. | .pushId .. | .isWritable _ | .isActive | .close => false

namespace Outlet.Tracks

variable {κ : Type} [Codec κ] {start o : Outlet κ} {l : IssueLog}

/-- Nothing waits anywhere after a write that is flushed and does not fail. -/
theorem idle_write (T : Tracks start l o) {c : Command} (h : (o.write c).IsCalm)
    (hc : ∀ s promised hs p, c ≠ .pushPromise s promised hs p) :
    (o.write c).hub.takeInline.1 = [] ∧ (o.write c).channel.pending = [] := by
  have hscope : (o.write c).hub.scope = some ⟨start.home, []⟩ := T.scope_serve (i := .write c) h
  refine ⟨?_, pending_perform (isCalm_of_perform h) hc⟩
  rw [Hub.takeInline, hscope]

theorem idle_act (hblind : Codec.IsBlind κ) (T : Tracks start l o) (now : StreamId)
    {a : WriterAction} (ha : a.isFlushed = true) (h : (o.act now a).IsCalm) :
    (o.act now a).hub.takeInline.1 = [] ∧ (o.act now a).channel.pending = [] := by
  have watched {w : WatchRequest} {c : Promise → Command} (h : (o.writeWatched w c).IsCalm)
      (hc : ∀ p s promised hs q, c p ≠ .pushPromise s promised hs q) :
      (o.writeWatched w c).hub.takeInline.1 = [] ∧
        (o.writeWatched w c).channel.pending = [] := by
    cases w with
    | none => exact T.idle_write h (hc .void)
    | some request => exact (T.watch hblind o.home request.1 request.2 none).idle_write h (hc _)
  cases a with
  | headers | data | frame | reset | goAway => exact T.idle_write h nofun
  | ping | settings => exact watched h nofun
  | consume | push | pushId | isWritable | isActive | close => cases ha

end Outlet.Tracks

namespace Turn

open Outlet

variable {σ δ : Type}

/-- Application code on the loop of its bridge keeps up with what it issues. -/
theorem tracks_program {κ : Type} [Codec κ] (hblind : Codec.IsBlind κ) {t : Turn κ σ δ}
    (now : StreamId) {actions : List Action}
    (hindex : t.bridge.id.index < t.hub.mailboxes.length)
    (hcurrent : t.hub.isCurrent t.bridge.id = true) (hown : ∀ a ∈ actions, a.IsOwn t.bridge.id)
    (hcode : ∀ label ∈ t.issueLog.refusals now actions, ∀ r ∈ t.hub.reactions,
      r.label ≠ label) :
    (t.outlet.waitingFor []).Tracks (t.issueLog.program now actions)
      (t.program true now actions).state.outlet := by
  obtain ⟨inline, hscope⟩ := Hub.scope_of_isCurrent hcurrent
  have hlog : t.issueLog = ⟨(t.hub.mailbox t.bridge.id).streams, inline.map .write⟩ := by
    simp [issueLog, Hub.takeInline, hscope]
  have hstart : (t.outlet.waitingFor []).Tracks t.issueLog t.outlet := by
    rw [hlog]
    exact Tracks.waiting hindex inline hscope
  exact hstart.program hblind hindex now hown hcode

/-- Application code that does not panic comes to its end. -/
theorem stop_program_of_isOwn {κ : Type} [Codec κ] {t : Turn κ σ δ} (hasWriter : Bool)
    (now : StreamId) {actions : List Action} {home : LoopId}
    (hown : ∀ a ∈ actions, a.IsOwn home) : (t.program hasWriter now actions).stop = none := by
  refine Run.stop_each_of_mem (f := Outlet.step hasWriter now) fun a ha o => ?_
  cases a with
  | write | handle => rfl
  | panic m => exact absurd (hown _ ha) id

variable [Connection σ] [Decoder δ]

/-- Application code may write through its writer and through the handle of its bridge and close
the writer in the end.  If no write fails before the close, what was issued falls into two parts.

* The writes that were made: each line that the codec wrote for them has been accepted.
* The writes that wait in the inline queue when the writer is closed: they are lost, since the
  channel accepts nothing any more, whatever happens to the bridge.

Whatever is done before the loop is left, all that was accepted is flushed, or all but the push
promises that had not been flushed before the close.  Nothing is lost and nothing stays behind if
the last write is one of the writer that is flushed. -/
theorem writes_before_close {t : Turn LineCodec σ δ} (now : StreamId) {actions : List Action}
    (hindex : t.bridge.id.index < t.hub.mailboxes.length)
    (hcurrent : t.hub.isCurrent t.bridge.id = true) (hown : ∀ a ∈ actions, a.IsOwn t.bridge.id)
    (hcode : ∀ label ∈ t.issueLog.refusals now actions, ∀ r ∈ t.hub.reactions, r.label ≠ label)
    (hpromises : ∀ f ∈ t.bridge.channel.pending, f.IsPromise)
    (hcalm : (t.program true now actions).state.outlet.IsCalm) :
    let s := (t.program true now actions).state
    let u := t.program true now (actions ++ [.write .close])
    u.stop = none ∧ ∃ done lost made more,
      (t.issueLog.program now actions).issued = done ++ lost.map .write ∧
      lost.map (·.outgoing) = s.hub.takeInline.1.map (·.outgoing) ∧
      IsTranscript done made ∧ more.map (·.bytes) = made.flatMap LineCodec.linesOf ∧
      (∀ later, Course u.state later → acceptedFrames later.hub.journal t.bridge.id =
        acceptedFrames t.hub.journal t.bridge.id ++ more) ∧
      s.bridge.channel.flushed ++ s.bridge.channel.pending =
        t.bridge.channel.flushed ++ t.bridge.channel.pending ++ more ∧
      (∀ f ∈ s.bridge.channel.pending, f.IsPromise) ∧
      (∀ r, Chain u.state r → r.state.bridge.channel.isOpen = true →
        (r.state.bridge.channel.flushed = s.bridge.channel.flushed ∧
          r.state.bridge.channel.pending = s.bridge.channel.pending) ∨
        (r.state.bridge.channel.flushed =
            s.bridge.channel.flushed ++ s.bridge.channel.pending ∧
          r.state.bridge.channel.pending = [])) ∧
      (∀ front a, actions = front ++ [.write a] → a.isFlushed = true →
        lost = [] ∧ s.bridge.channel.pending = []) := by
  intro s u
  have T := tracks_program LineCodec.isBlind now hindex hcurrent hown hcode
  obtain ⟨done, lost, hissued, hlost, hdone⟩ := T.parts hcalm
  rw [sight_of_calm hcalm] at hdone
  obtain ⟨hserved, hview⟩ := calm_of_sight hdone.symm
  obtain ⟨made, hmade, hcalls⟩ := transcript_foldl_serve hserved
  -- The channel took writes from the start, so that every line was written through.
  have hactive : t.bridge.channel.isActive = true := by
    by_contra hrough
    exact law_not_isCalm.program true now actions (o := t.outlet)
      (.of [] fun h => hrough h.1) hcalm
  have hthrough : s.outlet.WritesThrough t.bridge.id (t.hub.codecCalls t.bridge.id)
      (acceptedFrames t.hub.journal t.bridge.id)
      (t.bridge.channel.flushed ++ t.bridge.channel.pending) := by
    refine (law_writesThrough _ _ _ _).talk.program true now (o := t.outlet) ?_ (.of [] ?_)
    · rintro a ha rfl
      exact hown _ ha rfl
    · exact ⟨⟨rfl, hactive⟩, [], [], (List.append_nil _).symm, rfl, (List.append_nil _).symm,
        (List.append_nil _).symm⟩
  have hcutOff := hthrough.isCutOff
  obtain ⟨⟨hhome, -⟩, made', more, hcalls', hlines, haccepted, hheld⟩ := hthrough
  -- What the codec was called for are the writes that were made, since the two views agree.
  have hsame : made' = made := by
    have hall : s.outlet.hub.codecCalls s.outlet.home =
        t.hub.codecCalls t.bridge.id ++ made := (congrArg View.calls hview).symm.trans hcalls
    rw [hhome] at hall
    exact List.append_cancel_left (hcalls'.symm.trans hall)
  subst hsame
  have hclosed : u = .done (s.onOutlet .close) := by
    show t.program true now (actions ++ [.write .close]) = _
    rw [program_append, Run.andThen_of_done (stop_program_of_isOwn true now hown)]
    rfl
  rw [haccepted] at hcutOff
  rw [hclosed]
  refine ⟨rfl, done, lost, made', more, hissued, hlost, hmade, hlines, fun later hlater => ?_,
    hheld, ?_, fun r hchain => ?_, ?_⟩
  · exact (hlater.isSilent hcutOff.1).2.2
  · exact rule_promisesOnly.program true now (fun _ _ => trivial) hpromises
  · exact (hchain.keeps (steady_isCutOff _ _ _ _).deed hcutOff).2
  · rintro front a rfl hflushed
    have hfront : ∀ a' ∈ front, a'.IsOwn t.bridge.id :=
      fun a' ha' => hown a' (List.mem_append_left _ ha')
    have hlast : (t.program true now (front ++ [.write a])).state.outlet =
        (t.program true now front).state.outlet.act now a := by
      rw [program_append, Run.andThen_of_done (stop_program_of_isOwn true now hfront)]
      rfl
    have T' := tracks_program LineCodec.isBlind now hindex hcurrent hfront fun label hlabel =>
      hcode label (IssueLog.refusals_append now _ front [.write a] ▸ List.mem_append_left _ hlabel)
    have hidle := T'.idle_act LineCodec.isBlind now hflushed (hlast ▸ hcalm)
    rw [← hlast] at hidle
    obtain ⟨hinline, hpending⟩ := hidle
    rw [hinline, List.map_nil, List.map_eq_nil_iff] at hlost
    exact ⟨hlost, hpending⟩

end Turn

/-- Writes of either kind, with a push promise and a write that waits in the end. -/
def hasty : List Action :=
  [.handle none false (.ping ⟨1⟩ "first"), .write (.headers .current .empty false),
    .write (.push .current .empty), .handle none false (.data .current [] true)]

/-- The ping, the headers and the push promise are accepted; the data never is. -/
theorem writes_before_close_hasty :
    (entered.program true (.ofNat 1) hasty).state.outlet.IsCalm ∧
      ∃ more, more.map (·.bytes) =
          [LineCodec.frameOf (.ping ⟨1⟩ .void), LineCodec.frameOf (.headers (.ofNat 1) .empty false),
            LineCodec.frameOf (.pushPromise (.ofNat 1) (.ofNat 2) .empty .void)].map (·.bytes) ∧
        ∀ later,
          Turn.Course (entered.program true (.ofNat 1) (hasty ++ [.write .close])).state later →
            acceptedFrames later.hub.journal ⟨0⟩ = more := by
  have hcalm : (entered.program true (.ofNat 1) hasty).state.outlet.IsCalm := ⟨rfl, rfl⟩
  have hown : ∀ a ∈ hasty, a.IsOwn entered.bridge.id := by
    simp [hasty, Action.IsOwn, entered, Builder.build]
  obtain ⟨-, done, lost, made, more, hissued, hlost, hmade, hlines, hlater, -⟩ :=
    Turn.writes_before_close (.ofNat 1) (t := entered) (by decide) rfl hown
      (fun _ _ _ hr => absurd hr List.not_mem_nil) (fun _ hf => absurd hf List.not_mem_nil) hcalm
  have hsent := hlater _ .refl
  refine ⟨hcalm, more, ?_, hlater⟩
  have hnow : acceptedFrames
      (entered.program true (.ofNat 1) (hasty ++ [.write .close])).state.hub.journal ⟨0⟩ = more :=
    hsent
  rw [← hnow]
  decide +kernel

/-- The transport comes up, the peer sends its settings, and the application closes its writer after
some other actions. -/
def closingAfter (actions : List Action) : List Move :=
  [.enter .activate, .enter (.event (.frame (.settings .empty))),
    .enter (.write (actions ++ [.write .close]))]

/-- A write through a handle that is followed by a close is never accepted, and a push promise that
is followed by a close is never flushed by the entry. -/
theorem writes_before_close_lost :
    let waited := (unpacking.build {}).moves 2
      (closingAfter [.handle none false (.headers (.id (.ofNat 1)) .empty false)])
    let promised := (unpacking.build {}).moves 2
      (closingAfter [.write (.push (.id (.ofNat 1)) .empty)])
    (waited.stop = none ∧
      waited.state.bridge.channel.flushed.map (·.bytes) = [Bytes.ofText "Preface\n"] ∧
      waited.state.bridge.channel.pending = [] ∧
      (acceptedFrames waited.state.hub.journal ⟨0⟩).map (·.bytes) = [Bytes.ofText "Preface\n"]) ∧
    promised.stop = none ∧
      promised.state.bridge.channel.flushed.map (·.bytes) = [Bytes.ofText "Preface\n"] ∧
      promised.state.bridge.channel.pending =
        [LineCodec.frameOf (.pushPromise (.ofNat 1) (.ofNat 2) .empty .void)] := by
  decide +kernel

end FrameBridge
