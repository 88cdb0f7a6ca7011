import FrameBridge.Proofs.Entry.Closing
import FrameBridge.Proofs.Law.Word
import FrameBridge.Proofs.Pushes.Numbers
import FrameBridge.Proofs.Rounds.Round
import FrameBridge.Proofs.Traffic.Quiet
import Mathlib.Data.Prod.Lex

/-!
# Settling comes to its end

A round of settling may leave more work of another kind than it does away with.  But an error is only
reacted to until the transport is to be closed, a failure that a codec was told of beforehand comes
once, and word of a codec of lines is nothing that a connection that records acts on.  So there is a
load that every round makes lighter.

* `Turn.load` weighs what is left to settle.
* `Turn.Round.load_lt` says that a round makes the load lighter.
* `Turn.settle_terminates` says that settling comes to its end in every state that a bridge gets into,
  and so does every move.
-/

namespace FrameBridge

/-- The failures that a codec was told of beforehand and that have not happened. -/
def LineCodec.armed (c : LineCodec) : Nat :=
  c.drainFailure.toList.length + c.consumeFailure.toList.length + c.upgradeFailure.toList.length

/-- A codec of lines leaves one notification at most after a frame. -/
theorem LineCodec.aftermath_cases (c : LineCodec) (f : Outgoing) :
    c.aftermath f = [] ∨ ∃ e, c.aftermath f = [.notify e] := by
  cases f with
  | reset s code =>
      simp only [aftermath]
      split
      · exact .inr ⟨_, rfl⟩
      · exact .inl rfl
  | goAway => exact .inr ⟨_, rfl⟩
  | headers | data | ping | settings | pushPromise | frame => exact .inl rfl

namespace Outlet

/-- What is left at the channel, and what may still come of the codec.  A failure that happens
becomes a fault, which weighs less. -/
def burden (o : Outlet LineCodec) : Nat :=
  2 * o.codec.armed + o.channel.faults.length + o.channel.notifications.length

theorem burden_accept (o : Outlet LineCodec) (f : Outbound) : (o.accept f).burden = o.burden := by
  unfold accept Channel.write
  by_cases hactive : o.channel.isActive = true
  · simp [hactive, burden]
  · simp [hactive, burden]

theorem burden_notify (o : Outlet LineCodec) (e : Event) :
    (o.carryOut (.notify e)).burden = o.burden + 1 := by
  simp [carryOut, burden, Channel.notify, Nat.add_assoc]

/-- A frame leaves one notification at most. -/
theorem burden_encode (o : Outlet LineCodec) (f : Outgoing) (p : Promise) :
    (o.encode f p).burden ≤ o.burden + 1 := by
  let called : Outlet LineCodec := { o.record (.codec (.encode f)) with
    codec := { o.codec with openStreams := o.codec.openAfter f } }
  let written := called.accept ⟨Bytes.ofText (LineCodec.line f ++ "\n"), p⟩
  have hwritten : written.burden = o.burden := burden_accept called _
  show burden ((o.codec.aftermath f).foldl carryOut written) ≤ _
  rw [← hwritten]
  rcases o.codec.aftermath_cases f with hnone | ⟨e, hone⟩
  · rw [hnone]
    exact Nat.le_succ _
  · rw [hone]
    exact (burden_notify written e).le

/-- A drain that fails uses up what the codec was told of. -/
theorem burden_drain (o : Outlet LineCodec) : o.drain.burden ≤ o.burden := by
  unfold drain
  cases hfailure : o.codec.drainFailure with
  | none =>
      have hstep : Codec.drain o.codec =
          (⟨o.codec, [LineCodec.emit "WritePending" .void], .ok ()⟩ : CodecStep LineCodec _) := by
        simp only [Codec.drain, LineCodec.drain, hfailure]
      rw [hstep]
      exact (burden_accept _ _).le
  | some e =>
      have hstep : Codec.drain o.codec =
          (⟨{ o.codec with drainFailure := none }, [], .error e⟩ : CodecStep LineCodec _) := by
        simp only [Codec.drain, LineCodec.drain, hfailure]
      rw [hstep]
      simp [call, orRaise, raise, Channel.raise, burden, LineCodec.armed, record, hfailure]
      omega

/-- A write that is performed leaves one notification at most. -/
theorem burden_perform (o : Outlet LineCodec) (c : Command) : (o.perform c).burden ≤ o.burden + 1 := by
  unfold perform
  split
  · exact Nat.le_succ o.burden
  · have hencode := burden_encode o c.outgoing c.promise
    cases c with
    | data s d ends =>
        simp only [afterEncoding]
        split
        · exact (burden_drain _).trans hencode
        · exact hencode
    | _ => exact hencode

theorem burden_foldl_perform (cs : List Command) (o : Outlet LineCodec) :
    (cs.foldl perform o).burden ≤ o.burden + cs.length := by
  induction cs generalizing o with
  | nil => exact Nat.le_refl _
  | cons c cs ih =>
      have hfirst := burden_perform o c
      have hrest := ih (o.perform c)
      rw [List.foldl_cons, List.length_cons]
      omega

/-- A close that was asked for stays asked for. -/
theorem mild_closeRequested {κ : Type} :
    Mild fun o : Outlet κ => o.channel.closeRequested = true where
  resolve _ h := h
  aside _ h := h
  codec _ _ h := h
  buffer _ _ _ h := h
  flush h := h
  requestClose _ := rfl
  leaveWord _ _ _ h := h

end Outlet

namespace Turn

variable {σ δ : Type}

/-- Whether the transport is to be closed, so that errors are ignored. -/
def closes (t : Turn LineCodec σ δ) : Bool :=
  t.bridge.state.isEnding || t.bridge.channel.closeRequested

/-- What is left to settle.  It weighs most that errors are still reacted to. -/
def load (t : Turn LineCodec σ δ) : ℕ ×ₗ ℕ :=
  toLex (if t.closes then 0 else 1, t.outlet.burden + 2 * t.hub.inline.length)

/-- Nothing that is left to settle makes somebody send something who was not told of an error. -/
structure Tame (t : Turn LineCodec σ δ) : Prop where
  notes : t.outlet.Notes Event.IsWord
  mute : t.hub.IsMute

theorem closes_close (t : Turn LineCodec σ δ) : t.close.closes = true := by
  simp [closes, close, onOutlet, withOutlet, Outlet.close, Channel.requestClose, advance]

theorem load_lt_of_le {t t' : Turn LineCodec σ δ} (hcloses : t.closes = true → t'.closes = true)
    (h : t'.outlet.burden + 2 * t'.hub.inline.length < t.outlet.burden + 2 * t.hub.inline.length) :
    t'.load < t.load := by
  refine Prod.Lex.toLex_lt_toLex.mpr ?_
  cases ht : t.closes with
  | true => exact .inr ⟨by simp [hcloses ht], h⟩
  | false =>
      cases ht' : t'.closes with
      | true => exact .inl (by simp)
      | false => exact .inr ⟨rfl, h⟩

variable [Connection σ] [Decoder δ] {t : Turn LineCodec σ δ} {r : Run (Turn LineCodec σ δ)}

namespace Tame

theorem deed (hdeed : Deed t r) (h : t.Tame) : r.state.Tame where
  notes := hdeed.notes LineCodec.leaves_word h.notes
  mute := Outlet.steady_isMute.deed hdeed h.mute

theorem chain (hchain : Chain t r) (h : t.Tame) : r.state.Tame :=
  hchain.keeps deed h

end Tame

/-! ### Rounds make the load lighter -/

/-- A connection that records does nothing about the words of a codec of lines. -/
theorem route_word (hrecords : Connection.Records σ) {e : Event} (he : e.IsWord)
    (t : Turn LineCodec σ δ) :
    ∃ session hub, t.route e = .done { bridge := { t.bridge with session }, hub } ∧
      hub.scope = t.hub.scope := by
  have told {c : Callback} (hc : c.isOccasion = false) (hframe : ∀ f, c ≠ .frame f)
      (t' : Turn LineCodec σ δ) :
      ∃ session hub, t'.tell c = .done { bridge := { t'.bridge with session }, hub } ∧
        hub.scope = t'.hub.scope := by
    cases hsession : t'.bridge.session with
    | none =>
        have hkept : t'.tell c = .done t' := by simp only [tell, hsession]
        exact ⟨t'.bridge.session, t'.hub, hkept, rfl⟩
    | some session =>
        exact ⟨_, _, tell_of_silent hsession hframe (hrecords session.connection c hc), rfl⟩
  unfold route
  split
  · exact ⟨t.bridge.session, _, rfl, rfl⟩
  · cases he with
    | closed s =>
        simp only [onStreamChange]
        cases t.bridge.session with
        | none => exact ⟨_, _, rfl, rfl⟩
        | some session => exact told (c := .streamClosed s) rfl (by simp) _
    | goAway g =>
        simp only [tellOr]
        split
        · exact told (c := .goAway g) rfl (by simp) _
        · exact ⟨t.bridge.session, _, rfl, rfl⟩

omit [Connection σ] [Decoder δ] in
theorem load_catchUp_lt (hmute : t.hub.IsMute) {loop : LoopId} {c : Command}
    {waiting : List Command} (hscope : t.hub.scope = some ⟨loop, c :: waiting⟩) :
    t.catchUp.load < t.load := by
  let taken : Outlet LineCodec :=
    { t.outlet with hub := { t.hub with scope := some ⟨loop, []⟩ } }
  have hcaught : t.catchUp = t.withOutlet ((c :: waiting).foldl Outlet.perform taken) :=
    congrArg t.withOutlet (Outlet.catchUp_of_isMute hmute hscope)
  have hquiet := Outlet.quiet_foldl_perform (o := taken) hmute (c :: waiting)
  have hidle : t.catchUp.hub.inline = [] := by
    rw [hcaught]
    exact Hub.inline_congr hquiet.2.scope
  -- A command that waits weighs two, and leaves one notification at most.
  have hburden : t.catchUp.outlet.burden ≤ t.outlet.burden + (c :: waiting).length := by
    rw [hcaught]
    exact Outlet.burden_foldl_perform (c :: waiting) taken
  refine load_lt_of_le ?_ ?_
  · rw [hcaught]
    simp only [closes, Bool.or_eq_true]
    refine Or.imp_right fun hrequested => ?_
    exact List.foldlRecOn (motive := fun o : Outlet LineCodec => o.channel.closeRequested = true)
      (c :: waiting) _ hrequested fun _ h c _ => Outlet.mild_closeRequested.perform c h
  · have hwaiting : t.hub.inline = c :: waiting := by simp [Hub.inline, hscope]
    rw [hidle, hwaiting]
    simp only [List.length_cons, List.length_nil] at hburden ⊢
    omega

/-- Every round that comes to its end makes the load lighter. -/
theorem Round.load_lt (hrecords : Connection.Records σ) (ht : t.Tame) (h : Round t r)
    (hend : r.stop = none) : r.state.load < t.load := by
  cases h with
  | @fault fault faults hfaults =>
      let taken : Turn LineCodec σ δ := t.onChannel ({ · with faults })
      have hlighter : taken.outlet.burden < t.outlet.burden := by
        simp [taken, onChannel, outlet, Outlet.burden, hfaults]
      cases hcloses : t.closes with
      | true =>
          have hignored : taken.onException fault =
              .done (taken.notice (.errorIgnored t.bridge.id fault)) := if_pos hcloses
          rw [show (t.onChannel ({ · with faults })).onException fault = _ from hignored]
          exact load_lt_of_le id (Nat.add_lt_add_right hlighter _)
      | false =>
          -- Once the error is handled the transport is to be closed, whatever else was left by it.
          have hhandled : taken.onException fault =
              ((taken.reportException fault).onError fault.asProtocolError).andThen
                fun t => .done t.close :=
            if_neg (Bool.eq_false_iff.mp hcloses)
          rw [show (t.onChannel ({ · with faults })).onException fault = _ from hhandled] at hend ⊢
          obtain ⟨hreacted, -⟩ := Run.stop_andThen.mp hend
          rw [Run.state_andThen hreacted]
          refine Prod.Lex.toLex_lt_toLex.mpr (.inl ?_)
          simp [closes_close, hcloses]
  | inline hscope => exact load_catchUp_lt ht.mute hscope
  | @notification e notifications hnotifications =>
      have he : e.IsWord := ht.notes e (hnotifications ▸ List.mem_cons_self)
      obtain ⟨session, hub, hrouted, hscope⟩ :=
        route_word hrecords he (t.onChannel ({ · with notifications }))
      rw [hrouted]
      refine load_lt_of_le id ?_
      have hinline : hub.inline = t.hub.inline := Hub.inline_congr hscope
      simp [outlet, onChannel, Outlet.burden, hnotifications, hinline]

/-! ### Settling ends -/

/-- With enough rounds settling comes to its end. -/
theorem ends_settle (hrecords : Connection.Records σ) (ht : t.Tame) :
    Run.Ends Tame fun rounds => t.settle rounds := by
  -- The induction is on the load, which a round makes lighter unless it stops.
  induction hload : t.load using WellFoundedLT.induction generalizing t with
  | ind load ih =>
      subst hload
      cases hround : t.round with
      | none =>
          have hsettled := isSettled_of_round hround
          exact ⟨0, .done t, Run.stop_done_ne t _, ht, fun rounds _ => settle_of_isSettled hsettled rounds⟩
      | some r =>
          have hr := round_cases hround
          have hnext : r.state.Tame := ht.chain hr.chain
          -- One round, and then as many as what it left to settle takes.
          have hrest : Run.Ends Tame fun rounds => r.andThen (settle rounds) := by
            by_cases hend : r.stop = none
            · simp only [Run.andThen_of_done hend]
              exact ih r.state.load (hr.load_lt hrecords ht hend) hnext rfl
            · simp only [Run.andThen_of_stopped hend]
              exact .const hr.stop_ne hnext
          obtain ⟨enough, run, hstop, hP, hruns⟩ := hrest
          refine ⟨enough + 1, run, hstop, hP, fun rounds h => ?_⟩
          obtain ⟨rounds, rfl⟩ := Nat.exists_eq_add_one_of_ne_zero (Nat.ne_zero_of_lt h)
          show t.settle (rounds + 1) = run
          rw [settle_succ, hround]
          exact hruns rounds (Nat.le_of_succ_le_succ h)

/-- An entry comes to its end if its own code does. -/
theorem ends_enter (hrecords : Connection.Records σ)
    (body : Nat → Turn LineCodec σ δ → Run (Turn LineCodec σ δ))
    (hbody : Run.Ends Tame fun rounds => body rounds t.entered) :
    Run.Ends (fun _ => True) fun rounds => t.enter rounds (body rounds) :=
  (hbody.andThen fun _ ht => ends_settle hrecords ht).map
    (g := fun t' => t'.leaving t.bridge.id t.hub.scope) fun _ _ => trivial

/-- With enough rounds every move comes to its end. -/
theorem ends_move (hrecords : Connection.Records σ) (ht : t.Tame) (m : Move) :
    Run.Ends (fun _ => True) fun rounds => t.move rounds m := by
  have hin : t.entered.Tame := by
    obtain ⟨scope, hscope⟩ := t.hub.enter_eq t.bridge.id
    refine ⟨ht.notes, ?_⟩
    show (t.hub.enter t.bridge.id).IsMute
    rw [hscope]
    exact ht.mute
  -- Where the code of an entry does not settle by itself it is one deed.
  have enters (body : Turn LineCodec σ δ → Run (Turn LineCodec σ δ))
      (hstop : (body t.entered).stop ≠ some .unsettled) (hbody : Chain t.entered (body t.entered)) :
      Run.Ends (fun _ => True) fun rounds => t.enter rounds body :=
    ends_enter hrecords (fun _ => body) (.const hstop (hin.chain hbody))
  cases m with
  | apply c =>
      exact enters (fun t => .done (t.onOutlet (·.write c))) (Run.stop_done_ne _ _)
        (.last (.write c))
  | enter e =>
      cases e with
      | activate => exact enters (fun t => .done t.started) (Run.stop_done_ne _ _) (chain_started _)
      | deactivate =>
          simp only [move, enterBy, deactivate]
          split
          · exact .const (Run.stop_done_ne _ _) trivial
          · have hgone : t.entered.letGo.Tame := hin.deed (.letGo)
            refine ends_enter hrecords (fun rounds t => (t.letGo.settle rounds).andThen tearDown) ?_
            exact (ends_settle hrecords hgone).andThen fun t' ht' =>
              .const (stop_tearDown_ne t') (ht'.deed .tearDown)
      | close => exact .const (Run.stop_done_ne _ _) trivial
      | decode input =>
          have hdecoded : (t.entered.decoded input).Tame := hin.deed (.decode input)
          refine ends_enter hrecords (fun rounds t => Run.each
            (fun t e => (t.route e).andThen (settle rounds))
            (Codec.decode t.bridge.codec input).result.events (t.decoded input)) ?_
          refine Run.Ends.each (fun t' e ht' => ?_) _ hdecoded
          exact (Run.Ends.const (stop_route_ne e t') (ht'.deed (.route e))).andThen
            fun _ ht => ends_settle hrecords ht
      | event e => exact enters (fun t => t.route e) (stop_route_ne e _) (.last (.route e))
      | write actions =>
          exact enters (program true .connection actions) (stop_program _ _ _ _)
            (.last (.program actions))
      | withConnection actions =>
          exact enters (program true .connection _) (stop_program _ _ _ _) (.last (.program _))
      | idle k =>
          cases k with
          | all =>
              exact enters (fun t => .done (t.notice (.closingIdle t.bridge.id)).close)
                (Run.stop_done_ne _ _) (.cons (.notice _) rfl (.last .close))
          | reader | writer =>
              exact enters (fun t => .done (t.notice (.idleIgnored t.bridge.id _)))
                (Run.stop_done_ne _ _) (.last (.notice _))
      | exception e =>
          exact enters (fun t => t.onException e) (stop_onException_ne e _)
            (.last (.onException e))

/-- Over a codec of lines and a connection that records, where the code that waits for writes sends
nothing, settling comes to its end in every state that a bridge gets into, panics included, and so
does every move: from some number of rounds on there is one way in which it ends, and that is not for
want of rounds.

This is because settling is one round after the other, and every round that comes to its end makes
the load lighter, which is a pair of numbers in lexicographic order, and leaves a state of which all
this holds again. -/
theorem settle_terminates (hrecords : Connection.Records σ) {b : Builder LineCodec σ δ} {hub : Hub}
    (hcourse : Course (b.build hub) t) (hmute : t.hub.IsMute) :
    (∀ rounds, t.settle (rounds + 1) = t.round.elim (.done t) (·.andThen (settle rounds))) ∧
    (∀ r, t.round = some r → r.stop = none →
      r.state.load < t.load ∧ Course (b.build hub) r.state ∧ r.state.hub.IsMute) ∧
    (∃ enough run, run.stop ≠ some .unsettled ∧
      ∀ rounds, enough ≤ rounds → t.settle rounds = run) ∧
    ∀ m, ∃ enough run, run.stop ≠ some .unsettled ∧
      ∀ rounds, enough ≤ rounds → t.move rounds m = run := by
  have hnew : (b.build hub).outlet.Notes Event.IsWord := fun _ he => absurd he List.not_mem_nil
  have ht : t.Tame := ⟨hcourse.notes LineCodec.leaves_word hnew, hmute⟩
  refine ⟨fun rounds => settle_succ rounds t, fun r hround hend => ?_, ?_, fun m => ?_⟩
  · have hr := round_cases hround
    exact ⟨hr.load_lt hrecords ht hend, hcourse.trans hr.chain.course, (ht.chain hr.chain).mute⟩
  · obtain ⟨enough, run, hstop, -, hruns⟩ := ends_settle hrecords ht
    exact ⟨enough, run, hstop, hruns⟩
  · obtain ⟨enough, run, hstop, -, hruns⟩ := ends_move hrecords ht m
    exact ⟨enough, run, hstop, hruns⟩

end Turn

/-- A bridge in whose codec a drain fails for one stream.  Its connection resets that stream when it
is told of the error. -/
def resetting : Builder LineCodec Recorder ToyDecoder where
  codec := { drainFailure := some (.stream (.ofNat 1) .internalError "window") }
  blueprint :=
    { script := { parts := [⟨.streamError, [.handle none false (.reset .current .internalError)], 1⟩] }
      occasions := by decide }

/-- The moves up to the headers of that stream. -/
def resettingMoves : List Move := opening ++ [.enter (.decode (Bytes.ofText "HEADERS 1\n"))]

/-- The bridge after the end of that stream was written, and before this is settled. -/
def resettingNow : Turn LineCodec Recorder ToyDecoder :=
  (((resetting.build {}).moves 9 resettingMoves).state.entered.program true .connection
    [.write (.data (.id (.ofNat 1)) [] true), .handle none false (.ping ⟨1⟩ "late")]).state

/-- A fault and a command are left, and the fault leaves a notification. -/
theorem settle_terminates_resetting :
    (∃ r, resettingNow.round = some r ∧ r.stop = none ∧ r.state.load < resettingNow.load ∧
      r.state.bridge.channel.notifications.length = 1) ∧
      (∃ enough run, run.stop ≠ some .unsettled ∧
        ∀ rounds, enough ≤ rounds → resettingNow.settle rounds = run) ∧
      (resettingNow.settle 1).stop = some .unsettled ∧ (resettingNow.settle 2).stop = none := by
  have hopened : ((resetting.build {}).moves 9 resettingMoves).stop = none := by decide +kernel
  have hcourse : Turn.Course (resetting.build {}) resettingNow :=
    ((Turn.proceeds_moves 9 resettingMoves hopened).course.tail (.enter _)).tail
      (.deed (.program _))
  have hmute : resettingNow.hub.IsMute := by
    show ∀ r ∈ resettingNow.hub.reactions, ∀ u ∈ r.uses, u.action = .isClosed
    decide +kernel
  obtain ⟨-, hlighter, hsettles, -⟩ :=
    Turn.settle_terminates Recorder.records hcourse hmute
  have hround : (resettingNow.round.map fun r =>
      (r.stop, r.state.bridge.channel.notifications.length)) = some (none, 1) := by decide +kernel
  obtain ⟨r, hr, hfacts⟩ := Option.map_eq_some_iff.mp hround
  obtain ⟨hend, hlength⟩ := Prod.mk.inj hfacts
  exact ⟨⟨r, hr, hend, (hlighter r hr hend).1, hlength⟩, hsettles, by decide +kernel,
    by decide +kernel⟩

end FrameBridge
