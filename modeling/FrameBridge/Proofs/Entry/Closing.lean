import FrameBridge.Proofs.Entry.Stance
import FrameBridge.Proofs.Law.Drive
import FrameBridge.Proofs.Law.Line
import FrameBridge.Proofs.Pushes.Order

/-!
# The state once a close was asked for

A bridge that asks for its transport to be closed goes on to the state `closing` at once.  The
channel may be asked by others who know nothing of the state: by application code that closes its
writer, by the codec, and by the reaction to a violation that the peer is to blame for.  Then the
state stays behind the channel.

* `Turn.IsCandid`: nobody has asked yet, or it shows that somebody might have.
* `Drive.ending_of_closeRequested`: in every run of a driver the state stays behind the channel at
  most after a violation, if application code and codec leave it to the bridge to close.
* `closeRequested_unnoticed`: it does stay behind otherwise.
-/

namespace FrameBridge

/-- An action that does not close the channel. -/
def Action.LeavesClosing (a : Action) : Prop := a ≠ .write .close

/-- The codec never asks the channel to close. -/
structure Codec.LeavesClosing (κ : Type) [Codec κ] : Prop where
  answer : ∀ {c : κ} {α : Type} {describe : α → CodecCall} {s : CodecStep κ α},
    Codec.IsAnswer c describe s → .close ∉ s.requests
  encode : ∀ (c : κ) f p, .close ∉ (Codec.encode c f p).requests
  decode : ∀ (c : κ) input, .close ∉ (Codec.decode c input).requests
  deactivate : ∀ c : κ, .close ∉ (Codec.deactivate c).requests

namespace Lifecycle

theorem isEnding_of_rank_le {now later : Lifecycle} (h : now.rank ≤ later.rank)
    (hnow : now.isEnding = true) : later.isEnding = true :=
  decide_eq_true (Nat.le_trans (of_decide_eq_true hnow) h)

theorem isEnding_advance_closing (now : Lifecycle) : (now.advance .closing).isEnding = true := by
  cases now <;> rfl

end Lifecycle

/-- A violation that a listener reports is that of one stream. -/
theorem Listener.stream?_of_error {δ : Type} [Decoder δ] {l : Listener δ} {f : Frame}
    {e : ProtocolError} (h : (l.process f).error = some e) : e.stream? ≠ none := by
  have failed (s : StreamId) (encoding : String) (e' : DecodeError) :
      (failure s encoding e').stream? ≠ none := nofun
  cases f with
  | headers s hs prio padding ends =>
      simp only [process] at h
      split at h
      · split at h
        · unfold endWithTrailers at h
          split at h
          · split at h
            · cases h
            · cases h
              exact failed _ _ _
          · cases h
        · cases h
      · unfold begin at h
        simp only at h
        split at h
        · cases h
        · split at h
          · cases h
          · split at h <;> cases h
  | data s d padding ends window =>
      simp only [process, body] at h
      split at h
      · split at h
        · cases h
        · cases h
          exact failed _ _ _
      · cases h
  | _ => cases h

/-! ### What is known of the channel -/

namespace Outlet

variable {κ : Type}

theorem closeRequested_accept (f : Outbound) (o : Outlet κ) :
    (o.accept f).channel.closeRequested = o.channel.closeRequested := by
  show (o.channel.write f).1.closeRequested = _
  unfold Channel.write
  split <;> rfl

/-- Only the request to close asks for a close. -/
theorem closeRequested_carryOut {r : ChannelRequest} (hr : r ≠ .close) (o : Outlet κ) :
    (o.carryOut r).channel.closeRequested = o.channel.closeRequested := by
  cases r with
  | write bytes p => exact o.closeRequested_accept _
  | notify | raise | flush => rfl
  | close => exact absurd rfl hr

theorem closeRequested_foldl_carryOut {requests : List ChannelRequest}
    (hclose : .close ∉ requests) (o : Outlet κ) :
    (requests.foldl carryOut o).channel.closeRequested = o.channel.closeRequested := by
  induction requests generalizing o with
  | nil => rfl
  | cons r requests ih =>
      rw [List.mem_cons, not_or] at hclose
      rw [List.foldl_cons, ih hclose.2, closeRequested_carryOut (Ne.symm hclose.1)]

/-- Nobody asks for a close by writing. -/
theorem law_unasked [Codec κ] (hcodec : Codec.LeavesClosing κ) :
    CallLaw (fun _ => True)
      (Regardless fun o : Outlet κ => o.channel.closeRequested = false) where
  hub o := Hub.law_of_constant (o.channel.closeRequested = false)
  good_of_waiting _ _ _ := trivial
  take h := h
  encode {c _ o} _ h := (closeRequested_foldl_carryOut (hcodec.encode o.codec c.outgoing _) _).trans h
  call hs h := (closeRequested_foldl_carryOut (hcodec.answer hs) _).trans h
  flush h := h
  raise _ _ _ h := h

end Outlet

/-! ### What is known of the events that arrived -/

/-- No use of a handle and no callback delivers an event. -/
theorem Hub.law_arrivals (p : List Arrival → Prop) :
    Law (fun _ => True) (Regardless fun h => p h.arrivals) where
  good_of_faithful _ := trivial
  void h := h
  log {r _ h} _ hp := by
    unfold log
    split <;> exact hp
  forget _ _ _ h := h
  answered _ _ _ _ h := h
  issue _ _ _ _ _ _ h := h
  reserve _ _ _ h := h
  inline _ _ h := h
  queue _ _ h := h

/-- An event that arrived has arrived for ever. -/
theorem Outlet.steady_arrived {κ : Type} (e : Event) :
    Steady fun o : Outlet κ => ⟨o.home, e⟩ ∈ o.hub.arrivals where
  hub o := Hub.law_arrivals (⟨o.home, e⟩ ∈ ·)
  aside ha hp := by
    cases ha with
    | record | notice | meter | refer => exact hp
    | arrive => exact List.mem_cons_of_mem _ hp
  codec _ _ hp := hp
  buffer _ _ _ hp := hp
  flush hp := hp
  requestClose hp := hp
  leaveWord _ _ _ hp := hp
  markInactive hp := hp
  take {o} hp := by
    obtain ⟨s, hs⟩ := o.hub.takeInline_eq
    rw [hs]
    exact hp

namespace Turn

variable {κ σ δ : Type}

/-- Nobody has asked for a close, and application code is not going to. -/
def IsUnasked [Connection σ] (t : Turn κ σ δ) : Prop :=
  t.bridge.channel.closeRequested = false ∧ t.bridge.Obeys Action.LeavesClosing

/-- It shows that somebody may have asked for a close: in the state, or in a violation that
arrived. -/
def ShowsClosing (t : Turn κ σ δ) : Prop :=
  t.bridge.state.isEnding = true ∨
    ∃ c m, ⟨t.bridge.id, .error (.connection c m)⟩ ∈ t.hub.arrivals

/-- Nobody has asked for a close, unless it shows. -/
def IsCandid [Connection σ] (t : Turn κ σ δ) : Prop := t.IsUnasked ∨ t.ShowsClosing

theorem showsClosing_close (t : Turn κ σ δ) : t.close.ShowsClosing :=
  .inl t.bridge.state.isEnding_advance_closing

variable [Codec κ] [Connection σ]

/-- Telling the application asks for no close. -/
theorem tell_isUnasked (hcodec : Codec.LeavesClosing κ) :
    TellRule Action.LeavesClosing (IsUnasked : Turn κ σ δ → Prop) where
  obeys h := h.2
  step hasWriter now a t ha h :=
    ⟨(Outlet.law_unasked hcodec).talk.step hasWriter now a (o := t.outlet)
      (fun hclose => absurd hclose ha) (.of [] h.1), h.2⟩
  record _ h := h
  notice _ _ h := h
  advance _ h := h
  session hanswers h := by
    refine ⟨h.1, h.2.hooks, fun _ hs => h.2.blueprint hs, ?_⟩
    intro s hs
    cases hs
    exact hanswers
  blueprint h := ⟨h.1, h.2.hooks, nofun, fun _ hs => h.2.session hs⟩

variable [Decoder δ]

/-- What shows is never taken back. -/
theorem Deed.showsClosing {t : Turn κ σ δ} {r : Run (Turn κ σ δ)} (h : t.Deed r)
    (ht : t.ShowsClosing) : r.state.ShowsClosing := by
  rcases ht with hending | ⟨c, m, hviolation⟩
  · exact .inl (Lifecycle.isEnding_of_rank_le h.change.later.rank hending)
  · exact .inr ⟨c, m, (Outlet.steady_arrived _).deed h hviolation⟩

/-- A bridge stays candid in a deed if it does so where nobody has asked for a close yet. -/
theorem IsCandid.deed {t : Turn κ σ δ} {r : Run (Turn κ σ δ)} (ht : t.IsCandid) (h : t.Deed r)
    (hunasked : t.IsUnasked → r.state.IsCandid) : r.state.IsCandid := by
  rcases ht with ht | ht
  · exact hunasked ht
  · exact .inr (h.showsClosing ht)

namespace IsUnasked

variable {t : Turn κ σ δ}

omit [Codec κ] [Decoder δ] in
theorem meter (h : t.IsUnasked) (f : Metrics → Metrics) : (t.meter f).IsUnasked := h

omit [Codec κ] [Decoder δ] in
theorem withOutlet (h : t.IsUnasked) {o : Outlet κ} (ho : o.channel.closeRequested = false) :
    (t.withOutlet o).IsUnasked :=
  ⟨ho, h.2⟩

omit [Decoder δ] in
theorem catchUp (hcodec : Codec.LeavesClosing κ) (h : t.IsUnasked) : t.catchUp.IsUnasked :=
  h.withOutlet ((Outlet.law_unasked hcodec).talk.catchUp (o := t.outlet) (.of [] h.1))

omit [Decoder δ] in
theorem call (hcodec : Codec.LeavesClosing κ) (h : t.IsUnasked) {α : Type}
    {describe : α → CodecCall} {s : CodecStep κ α} (hs : Codec.IsAnswer t.bridge.codec describe s) :
    (t.withOutlet (t.outlet.call describe s).2).IsUnasked :=
  h.withOutlet ((Outlet.law_unasked hcodec).call (o := t.outlet) hs (.of [] h.1))

omit [Decoder δ] in
/-- The reaction to the violation of one stream asks for no close. -/
theorem onError (hcodec : Codec.LeavesClosing κ) (h : t.IsUnasked) {e : ProtocolError}
    (he : e.stream? ≠ none) : (t.onError e).state.IsUnasked := by
  refine Run.holds_andThen ((tell_isUnasked hcodec).announce e h) ?_
  intro t h
  have hcaught := h.catchUp hcodec
  exact hcaught.withOutlet ((Outlet.law_unasked hcodec).react e (o := t.catchUp.outlet)
    (fun hnone => absurd hnone he) (.of [] hcaught.1))

omit [Decoder δ] in
/-- An exception leads to a close unless the application panics before. -/
theorem onException (hcodec : Codec.LeavesClosing κ) (h : t.IsUnasked) (e : BridgeError) :
    (t.onException e).state.IsCandid := by
  have R : TellRule Action.LeavesClosing (IsUnasked : Turn κ σ δ → Prop) := tell_isUnasked hcodec
  have hreported : (t.reportException e).IsUnasked := by
    unfold IsUnasked
    rw [bridge_reportException]
    exact h
  have htold := R.announce e.asProtocolError hreported
  unfold Turn.onException
  split
  · exact .inl h
  · refine Run.cases_andThen (P := fun r : Run (Turn κ σ δ) => r.state.IsCandid) ?_ ?_
    · -- A run that did not come to the close stopped where the connection was told.
      exact Run.cases_andThen (r := (t.reportException e).announce e.asProtocolError)
        (P := fun r : Run (Turn κ σ δ) => r.stop ≠ none → r.state.IsCandid)
        (fun _ _ => .inl htold) (fun _ hstop => absurd rfl hstop)
    · exact fun _ => .inr (showsClosing_close _)

omit [Decoder δ] in
theorem onEarlyFrame (hcodec : Codec.LeavesClosing κ) (h : t.IsUnasked) (f : Frame) :
    (t.onEarlyFrame f).state.IsCandid := by
  unfold Turn.onEarlyFrame
  split
  · rename_i s blueprint hblueprint
    exact .inl ((tell_isUnasked hcodec).establish (h.2.blueprint hblueprint) s h)
  · exact h.onException hcodec _
  · split
    · exact h.onException hcodec _
    · exact h.onException hcodec _

theorem onFrame (hcodec : Codec.LeavesClosing κ) (h : t.IsUnasked) (f : Frame) :
    (t.onFrame f).state.IsCandid := by
  have R : TellRule Action.LeavesClosing (IsUnasked : Turn κ σ δ → Prop) := tell_isUnasked hcodec
  unfold Turn.onFrame
  split
  · exact h.onEarlyFrame hcodec f
  · rename_i session hsession
    split
    · exact .inl (R.tell _ h)
    · left
      apply Run.holds_andThen
      · exact Run.holds_each (fun t f h => R.tell _ h) _
          (R.afterListening (h.2.session hsession) _ _ h)
      · intro t h
        split
        · exact h
        · rename_i e he
          exact (meter h _).onError hcodec (Listener.stream?_of_error he)

theorem route (hcodec : Codec.LeavesClosing κ) (h : t.IsUnasked) (e : Event) :
    (t.route e).state.IsCandid := by
  have R : TellRule Action.LeavesClosing (IsUnasked : Turn κ σ δ → Prop) := tell_isUnasked hcodec
  have harrive : IsUnasked { t with hub := t.hub.arrive t.bridge.id e } := h
  unfold Turn.route
  split
  · exact .inl h
  · cases e with
    | frame f => exact (harrive.meter Metrics.countInbound).onFrame hcodec f
    | stream change s => exact .inl (R.onStreamChange change s harrive)
    | goAway g => exact .inl (R.tellOr _ _ harrive)
    | writabilityChanged s => exact .inl (R.tellOr _ _ harrive)
    | error e =>
        cases e with
        | stream s c m =>
            exact .inl ((harrive.meter (·.countError .protocol)).onError hcodec nofun)
        | connection c m =>
            -- The violation has arrived before the codec reacts to it.
            have harrived : ⟨t.bridge.id, .error (.connection c m)⟩ ∈
                (t.hub.arrive t.bridge.id (.error (.connection c m))).arrivals :=
              List.mem_cons_self
            exact .inr (.inr ⟨c, m, (Outlet.steady_arrived _).rule.onViolation _ harrived⟩)

omit [Decoder δ] in
theorem started (hcodec : Codec.LeavesClosing κ) (h : t.IsUnasked) : t.started.IsUnasked := by
  have orRaise {t : Turn κ σ δ} (h : t.IsUnasked)
      {describe : Except ProtocolError Unit → CodecCall}
      {s : CodecStep κ (Except ProtocolError Unit)}
      (hs : Codec.IsAnswer t.bridge.codec describe s) :
      (t.withOutlet (.orRaise (t.outlet.call describe s))).IsUnasked :=
    h.withOutlet ((Outlet.law_unasked hcodec).orRaise (o := t.outlet) hs (.of [] h.1))
  have hpreface := h.call hcodec .activate
  have hupgraded : (Turn.applyUpgrade
      ((t.onOutlet fun o => (o.call (fun _ => .preface) (Codec.activate o.codec)).2).advance
        .prefaceSent)).IsUnasked := by
    unfold Turn.applyUpgrade
    split
    · exact hpreface
    · exact orRaise hpreface (.upgradeServer _)
    · exact orRaise hpreface .upgradeClient
  exact hupgraded

omit [Decoder δ] in
/-- A bridge that came to its end shows it; if the application panicked before, nobody has asked. -/
theorem tearDown (hcodec : Codec.LeavesClosing κ) (h : t.IsUnasked) :
    t.tearDown.state.IsCandid := by
  have hshut : t.shut.IsUnasked := h
  have hbye := (tell_isUnasked hcodec).sayGoodbye hshut
  exact Run.cases_andThen (r := t.shut.sayGoodbye)
    (P := fun r : Run (Turn κ σ δ) => r.state.IsCandid) (fun _ => .inl hbye)
    (fun _ => .inr (.inl rfl))

end IsUnasked

/-- A bridge stays candid whatever a driver does. -/
theorem rule_isCandid (hcodec : Codec.LeavesClosing κ) :
    DriveRule Action.LeavesClosing (IsCandid : Turn κ σ δ → Prop) where
  catchUp {t} ht := ht.deed .catchUp fun h => .inl (h.catchUp hcodec)
  onException e t ht := ht.deed (.onException e) fun h => h.onException hcodec e
  route e t ht := ht.deed (.route e) fun h => h.route hcodec e
  channel faults notifications t ht := ht
  program {actions t} hactions ht :=
    ht.deed (.program actions) fun h =>
      .inl ((tell_isUnasked hcodec).program true .connection hactions h)
  notice n t ht := ht
  close {t} _ := .inr t.showsClosing_close
  started {t} ht := by
    rcases ht with ht | ht
    · exact .inl (ht.started hcodec)
    · exact .inr (t.chain_started.keeps Deed.showsClosing ht)
  decoded input t ht := ht.deed (.decode input) fun h =>
    .inl (h.withOutlet ((Outlet.closeRequested_foldl_carryOut (hcodec.decode _ input) _).trans h.1))
  letGo {t} ht := ht.deed .letGo fun h => .inl <| by
    have hcaught := h.catchUp hcodec
    exact hcaught.withOutlet
      ((Outlet.closeRequested_foldl_carryOut (hcodec.deactivate _) _).trans hcaught.1)
  tearDown {t} ht := ht.deed .tearDown fun h => h.tearDown hcodec
  write c t ht := ht.deed (.write c) fun h =>
    .inl (h.withOutlet ((Outlet.law_unasked hcodec).talk.write (o := t.outlet) trivial
      (.of [_] h.1)))
  hub t := Hub.law_arrivals fun arrivals => t.IsUnasked ∨ t.bridge.state.isEnding = true ∨
    ∃ c m, (⟨t.bridge.id, .error (.connection c m)⟩ : Arrival) ∈ arrivals
  scope _ _ ht := ht
  mailbox _ _ _ ht := ht
  log r t ht := by
    unfold Hub.log
    split <;> exact ht
  take ht := ht
  recode _ _ ht := ht

/-! ### What the bridge asks for by itself -/

/-- Whatever happens after an entry, a state that is ending stays so. -/
theorem Course.isEnding {t t' : Turn κ σ δ} (h : Course t t')
    (ht : t.bridge.state.isEnding = true) : t'.bridge.state.isEnding = true :=
  Lifecycle.isEnding_of_rank_le h.later.rank ht

/-- An entry whose body leads to an ending state leaves the bridge in one, since the settling after
it takes no state back. -/
theorem isEnding_enter (rounds : Nat) {t : Turn κ σ δ} {body : Turn κ σ δ → Run (Turn κ σ δ)}
    (hbody : (body t.entered).stop = none → (body t.entered).state.bridge.state.isEnding = true)
    (hend : (t.enter rounds body).stop = none ∨ (body t.entered).stop = none) :
    (t.enter rounds body).state.bridge.state.isEnding = true := by
  have hreturned : (body t.entered).stop = none := by
    rcases hend with hend | hend
    · exact (Run.stop_andThen.mp hend).1
    · exact hend
  have hsettled := (chain_settle rounds (body t.entered).state).course.isEnding (hbody hreturned)
  show ((body t.entered).andThen (settle rounds)).state.bridge.state.isEnding = true
  rw [Run.andThen_of_done hreturned]
  exact hsettled

/-- Idleness in both directions puts the bridge into an ending state, however the entry ends. -/
theorem isEnding_onIdle (rounds : Nat) (t : Turn κ σ δ) :
    (t.onIdle rounds .all).state.bridge.state.isEnding = true :=
  t.isEnding_enter rounds (fun _ => Lifecycle.isEnding_advance_closing _) (.inr rfl)

/-- An exception puts the bridge into an ending state if it is not ignored and the application does
not panic. -/
theorem isEnding_exceptionCaught (rounds : Nat) {t : Turn κ σ δ} (e : BridgeError)
    (hunasked : t.bridge.channel.closeRequested = false)
    (hend : (t.exceptionCaught rounds e).stop = none) :
    (t.exceptionCaught rounds e).state.bridge.state.isEnding = true := by
  refine t.isEnding_enter rounds (fun hreturned => ?_) (.inl hend)
  have hopen : t.entered.bridge.channel.closeRequested = false := hunasked
  unfold onException at hreturned ⊢
  rw [hopen, Bool.or_false] at hreturned ⊢
  split
  · assumption
  · rename_i hnot
    rw [if_neg hnot] at hreturned
    obtain ⟨htold, -⟩ := Run.stop_andThen.mp hreturned
    rw [Run.andThen_of_done htold]
    exact Lifecycle.isEnding_advance_closing _

end Turn

namespace Drive

variable {κ σ δ : Type} [Codec κ] [Connection σ] [Decoder δ]

/-- In every run of a driver, panics included, a bridge whose channel was asked to close is in the
state `closing` or `closed`, as long as application code closes no writer and the codec asks for no
close, unless a violation of the connection was delivered to the bridge.  Whatever happened before,
a bridge that is asked to close itself, that is idle in both directions, or that handles an
exception before any other close was asked for, is in one of these states afterwards. -/
theorem ending_of_closeRequested (hcodec : Codec.LeavesClosing κ) {b : Builder κ σ δ}
    (hhooks : b.hooks.Obey Action.LeavesClosing)
    (hblueprint : Connection.Obeys Action.LeavesClosing b.blueprint) (reactions : List Reaction)
    (rounds : Nat) {steps : List (DriveStep κ)}
    (hsteps : ∀ s ∈ steps, ∀ a ∈ s.actions, a.LeavesClosing) :
    (((start b reactions).run rounds steps).turn.bridge.channel.closeRequested = true →
      ((start b reactions).run rounds steps).turn.bridge.state.isEnding = true ∨
        ∃ c m, ⟨((start b reactions).run rounds steps).home, .error (.connection c m)⟩ ∈
          ((start b reactions).run rounds steps).turn.hub.arrivals) ∧
    ∀ t : Turn κ σ δ,
      t.close.bridge.state.isEnding = true ∧
      (t.onIdle rounds .all).state.bridge.state.isEnding = true ∧
      ∀ e, t.bridge.channel.closeRequested = false → (t.exceptionCaught rounds e).stop = none →
        (t.exceptionCaught rounds e).state.bridge.state.isEnding = true := by
  have hobeys : (start b reactions).turn.bridge.Obeys Action.LeavesClosing := by
    refine ⟨hhooks, ?_, nofun⟩
    intro s hs
    cases hs
    exact hblueprint
  have hcandid : ((start b reactions).run rounds steps).turn.IsCandid :=
    (Turn.rule_isCandid hcodec).run rounds hsteps (.inl ⟨rfl, hobeys⟩)
  refine ⟨fun hasked => ?_, fun t => ⟨?_, t.isEnding_onIdle rounds, ?_⟩⟩
  · rcases hcandid with hunasked | hshows
    · exact absurd hasked (by rw [hunasked.1]; exact Bool.false_ne_true)
    · exact hshows
  · exact Lifecycle.isEnding_advance_closing _
  · exact fun e hunasked hend => Turn.isEnding_exceptionCaught rounds e hunasked hend

end Drive

/-- A codec of lines never closes. -/
theorem LineCodec.leavesClosing : Codec.LeavesClosing LineCodec where
  answer {c α describe s} hs hclose := by
    rw [requests_of_isAnswer hs] at hclose
    obtain ⟨bytes, -, hcontra⟩ := List.mem_map.mp hclose
    cases hcontra
  encode c f p hclose := by
    rcases List.mem_cons.mp hclose with hcontra | hrest
    · cases hcontra
    · obtain ⟨e, hcontra⟩ := notify_of_mem_aftermath hrest
      cases hcontra
  decode c input hclose := by
    cases hclose
  deactivate c hclose := by
    obtain ⟨e, hcontra⟩ := notify_of_mem_deactivate hclose
    cases hcontra

/-- A bridge that is idle once its transport is up. -/
def idling : List (DriveStep LineCodec) := [.enter .activate, .enter (.idle .all)]

theorem ending_of_closeRequested_idling :
    ((Drive.start unpacking []).run 2 idling).turn.bridge.channel.closeRequested = true ∧
      ((Drive.start unpacking []).run 2 idling).turn.bridge.state.isEnding = true := by
  have hasked :
      ((Drive.start unpacking []).run 2 idling).turn.bridge.channel.closeRequested = true := by
    decide +kernel
  have hsteps : ∀ s ∈ idling, ∀ a ∈ s.actions, a.LeavesClosing := by
    simp [idling, DriveStep.actions, Entrance.actions]
  have hhooks : unpacking.hooks.Obey Action.LeavesClosing :=
    ⟨List.forall_mem_nil _, List.forall_mem_nil _⟩
  obtain ⟨hending, -⟩ := Drive.ending_of_closeRequested LineCodec.leavesClosing (b := unpacking)
    hhooks (Script.obeys_of_silent _ rfl) [] 2 hsteps
  rcases hending hasked with hending | ⟨c, m, harrived⟩
  · exact ⟨hasked, hending⟩
  · -- Nothing was delivered to this bridge.
    cases harrived

/-- The transport comes up, the peer sends its settings, and the application closes its writer. -/
def dismissed : List Move :=
  [.enter .activate, .enter (.event (.frame (.settings .empty))), .enter (.write [.write .close])]

/-- The same with input that is not to be read in place of the application. -/
def garbled : List Move :=
  [.enter .activate, .enter (.event (.frame (.settings .empty))),
    .enter (.decode (Bytes.ofText "NONSENSE\n"))]

/-- Application code that closes its writer, and the codec's reaction to a violation, close the
channel behind the back of the state. -/
theorem closeRequested_unnoticed :
    ((unpacking.build {}).moves 2 dismissed).stop = none ∧
      ((unpacking.build {}).moves 2 dismissed).state.bridge.channel.closeRequested = true ∧
      ((unpacking.build {}).moves 2 dismissed).state.bridge.state = .settingsReceived ∧
    ((unpacking.build {}).moves 2 garbled).stop = none ∧
      ((unpacking.build {}).moves 2 garbled).state.bridge.channel.closeRequested = true ∧
      ((unpacking.build {}).moves 2 garbled).state.bridge.state = .settingsReceived := by
  decide +kernel

end FrameBridge
