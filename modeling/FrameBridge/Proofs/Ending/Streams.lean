import FrameBridge.Proofs.Counters.Speech
import FrameBridge.Proofs.Entry.Settled
import FrameBridge.Proofs.Law.Line
import FrameBridge.Proofs.Law.Recorder
import FrameBridge.Proofs.Listening.Share
import FrameBridge.Proofs.Traffic.Quiet

/-!
# The end of the streams

When the transport is gone the codec lets go of its streams, and leaves word of each.  The connection
is told of them while the bridge still counts as open, then that the transport is gone, and the last
hooks run.

* `Turn.settle_of_closed` says what comes of the words that the codec leaves.
* `Turn.quiet_tearDown` says what becomes of a bridge while the connection and the hooks are told of
  the end, where neither sends anything.
* `Turn.exists_deactivate` puts both together, and `Turn.deactivate_closes_streams` says what this
  comes to for whoever looks at the bridge from outside.
-/

namespace FrameBridge

/-- Code without a writer sends nothing by this action: it cannot use a writer, and it asks questions
of its handles only. -/
def Action.isMute : Action → Bool
  | .write _ | .panic _ => true
  | .handle _ _ a => a == .isClosed

/-- What a codec notifies is left in order, and nothing else changes. -/
theorem Outlet.foldl_notify {κ : Type} (es : List Event) (o : Outlet κ) :
    (es.map ChannelRequest.notify).foldl carryOut o =
      { o with channel := { o.channel with
          notifications := o.channel.notifications ++ es } } := by
  induction es generalizing o with
  | nil => simp
  | cons e es ih =>
      rw [List.map_cons, List.foldl_cons, ih]
      simp [carryOut, Channel.notify]

/-- A stream that was closed once is not remembered, whatever else is closed. -/
theorem Listener.coding?_foldl_streamClosed {δ : Type} (ss : List StreamId) (l : Listener δ)
    (x : StreamId) :
    (ss.foldl streamClosed l).coding? x = if x ∈ ss then none else l.coding? x := by
  induction ss generalizing l with
  | nil => simp
  | cons s ss ih =>
      rw [List.foldl_cons, ih, coding?_streamClosed]
      by_cases hx : x = s <;> simp [hx]

namespace Hub

/-- Several writes that end are no traffic, where the code that waits for them sends nothing, and
whoever watches one of them is told. -/
theorem quiet_resolveAll {h : Hub} (hm : h.IsMute) (rs : List Resolution) :
    h.Quiet (h.resolveAll rs) ∧ ∀ r ∈ rs, r.IsKnown (h.resolveAll rs) := by
  induction rs generalizing h with
  | nil => exact ⟨.refl h, fun _ hr => absurd hr List.not_mem_nil⟩
  | cons r rs ih =>
      have hfirst : h.Quiet (h.resolve r) := .resolve hm r
      obtain ⟨hquiet, hknown⟩ := ih (hfirst.isMute hm)
      refine ⟨hfirst.trans hquiet, fun r' hr' => ?_⟩
      rcases List.mem_cons.mp hr' with rfl | hr'
      · exact fun w hw => hquiet.journal.subset (h.isKnown_resolve r' w hw)
      · exact hknown r' hr'

end Hub

namespace Turn

variable {κ σ δ : Type} [Codec κ]

/-! ### Code that sends nothing -/

/-- Code without a writer that only asks questions changes nothing but what is on record. -/
theorem quiet_program (now : StreamId) {actions : List Action} (ha : ∀ a ∈ actions, a.isMute)
    (t : Turn κ σ δ) :
    ∃ hub, (t.program false now actions).state = { t with hub } ∧ t.hub.Quiet hub := by
  have keep : ∀ a ∈ actions, ∀ o : Outlet κ,
      (∃ hub, o = { t.outlet with hub } ∧ t.hub.Quiet hub) →
        ∃ hub, (o.step false now a).state = { t.outlet with hub } ∧ t.hub.Quiet hub := by
    rintro a ha' o ⟨hub, rfl, hquiet⟩
    have hmute := ha a ha'
    cases a with
    | write | panic => exact ⟨hub, rfl, hquiet⟩
    | handle target offLoop a =>
        obtain rfl : a = .isClosed := by simpa [Action.isMute] using hmute
        exact ⟨_, rfl, hquiet.trans (.record hub (target.getD t.bridge.id) _)⟩
  obtain ⟨hub, hstate, hquiet⟩ := Run.holds_each_of_mem keep ⟨t.hub, rfl, .refl t.hub⟩
  exact ⟨hub, congrArg t.withOutlet hstate, hquiet⟩

/-- Application code comes to its end if it does not panic. -/
theorem stop_program_iff (hasWriter : Bool) (now : StreamId) (actions : List Action)
    (t : Turn κ σ δ) :
    (t.program hasWriter now actions).stop = none ↔ ∀ m, .panic m ∉ actions := by
  have each (o : Outlet κ) :
      (Run.each (Outlet.step hasWriter now) actions o).stop = none ↔ ∀ m, .panic m ∉ actions := by
    induction actions generalizing o with
    | nil => simp [Run.each]
    | cons a actions ih =>
        rw [Run.each, Run.stop_andThen, ih]
        cases a with
        | write | handle => simp [Outlet.step]
        | panic m =>
            have hstop : (Outlet.step hasWriter now o (.panic m)).stop ≠ none :=
              Option.some_ne_none _
            exact iff_of_false (fun h => hstop h.1) fun h => h m List.mem_cons_self
  exact each t.outlet

theorem quiet_runHooks (kind : HookKind) {hooks : List (List Action)}
    (hh : ∀ hook ∈ hooks, ∀ a ∈ hook, a.isMute) (index : Nat) (t : Turn κ σ δ) :
    ∃ hub, (runHooks kind index hooks t).state = { t with hub } ∧ t.hub.Quiet hub := by
  induction hooks generalizing index t with
  | nil => exact ⟨t.hub, rfl, .refl t.hub⟩
  | cons hook hooks ih =>
      obtain ⟨hub, hstate, hquiet⟩ := quiet_program .connection (hh hook List.mem_cons_self)
        (t.record (.hook kind index))
      have hfirst : t.hub.Quiet hub := (Hub.Quiet.record t.hub t.bridge.id _).trans hquiet
      refine Run.holds_andThen_state (P := fun t' => ∃ hub, t' = { t with hub } ∧ t.hub.Quiet hub)
        ⟨hub, hstate, hfirst⟩ ?_
      obtain ⟨hub', hstate', hquiet'⟩ :=
        ih (fun hook' h => hh hook' (List.mem_cons_of_mem hook h)) (index + 1) { t with hub }
      rw [hstate]
      exact ⟨hub', hstate', hfirst.trans hquiet'⟩

theorem stop_runHooks_iff (kind : HookKind) (hooks : List (List Action)) (index : Nat)
    (t : Turn κ σ δ) :
    (runHooks kind index hooks t).stop = none ↔ ∀ hook ∈ hooks, ∀ m, .panic m ∉ hook := by
  induction hooks generalizing index t with
  | nil => simp [runHooks]
  | cons hook hooks ih =>
      rw [runHooks, Run.stop_andThen, ih, stop_program_iff]
      simp

variable [Connection σ]

/-! ### The words that the codec leaves -/

/-- The turn after a connection that records was told that a stream is closed. -/
def closedStream (t : Turn κ σ δ) (s : StreamId) : Turn κ σ δ where
  bridge := { t.bridge with
    session := t.bridge.session.map fun session =>
      { connection := (Connection.respond session.connection (.streamClosed s)).1
        listener := session.listener.map (·.streamClosed s) } }
  hub := (t.hub.arrive t.bridge.id (.stream .closed s)).record t.bridge.id
    (.callback (.streamClosed s))

variable [Decoder δ]

theorem route_closed (hrecords : Connection.Records σ) {t : Turn κ σ δ}
    (hopen : t.bridge.state ≠ .closed) (hestablished : t.bridge.isEstablished = true)
    (s : StreamId) : t.route (.stream .closed s) = .done (t.closedStream s) := by
  obtain ⟨session, hsession⟩ := Option.isSome_iff_exists.mp hestablished
  have hsilent := hrecords session.connection (.streamClosed s) rfl
  simp only [route, if_neg hopen, onStreamChange, hsession]
  let heard : Session σ δ := { session with listener := session.listener.map (·.streamClosed s) }
  let taken : Turn κ σ δ :=
    { bridge := { t.bridge with session := some heard }
      hub := t.hub.arrive t.bridge.id (.stream .closed s) }
  have htold := tell_of_silent (t := taken) (c := .streamClosed s) rfl nofun hsilent
  refine htold.trans ?_
  simp only [closedStream, hsession]
  rfl

/-- If nothing is left but word of closed streams, settling tells a connection that records of each
of them, in order. -/
theorem settle_of_closed (hrecords : Connection.Records σ) (ss : List StreamId) {rounds : Nat}
    (hrounds : ss.length ≤ rounds) {t : Turn κ σ δ} {loop : LoopId}
    (hopen : t.bridge.state ≠ .closed) (hestablished : t.bridge.isEstablished = true)
    (hscope : t.hub.scope = some ⟨loop, []⟩) (hfaults : t.bridge.channel.faults = [])
    (hleft : t.bridge.channel.notifications = ss.map (.stream .closed)) :
    t.settle rounds =
      .done (ss.foldl closedStream (t.onChannel ({ · with notifications := [] }))) := by
  induction ss generalizing t rounds with
  | nil =>
      have hsettled : t.isSettled = true := by simp [isSettled, hfaults, hleft, hscope]
      have hsame : t.onChannel ({ · with notifications := [] }) = t := by
        have hleft : [] = t.bridge.channel.notifications := hleft.symm
        simp only [onChannel, hleft]
      rw [settle_of_isSettled hsettled, List.foldl_nil, hsame]
  | cons s ss ih =>
      obtain ⟨rounds, rfl⟩ := Nat.exists_eq_add_one_of_ne_zero (Nat.ne_zero_of_lt hrounds)
      let taken : Turn κ σ δ := t.onChannel ({ · with notifications := ss.map (.stream .closed) })
      have htold : taken.route (.stream .closed s) = .done (taken.closedStream s) :=
        route_closed (t := taken) hrecords hopen hestablished s
      have hidle : t.hub.scope.any (!·.inline.isEmpty) = false := by simp [hscope]
      have hstill : (taken.closedStream s).bridge.isEstablished = true := by
        simpa [Bridge.isEstablished, closedStream, taken, onChannel] using hestablished
      simp only [settle, hfaults, hidle, hleft, List.map_cons, Bool.false_eq_true, if_false]
      rw [htold, Run.andThen_done]
      exact ih (Nat.le_of_succ_le_succ hrounds) hopen hstill hscope hfaults rfl

omit [Codec κ] [Decoder δ] in
theorem view_closedStream (t : Turn κ σ δ) (s : StreamId) :
    (t.closedStream s).view = t.view.andCalls [.told (.streamClosed s)] := by
  have hstory : (t.closedStream s).hub.story t.bridge.id =
      (t.hub.story t.bridge.id).andCalls [.told (.streamClosed s)] := by
    simp [closedStream, Hub.story_record, Hub.story_arrive, Event.settings?, Entry.call?]
  simp only [view, View.andCalls, ← hstory, closedStream, Option.isSome_map]
  rfl

omit [Codec κ] [Decoder δ] in
/-- Where several streams are closed, the listener remembers none of them, the connection was told of
each, and all else is as it was. -/
theorem exists_foldl_closedStream (ss : List StreamId) {t : Turn κ σ δ} {session : Session σ δ}
    (hsession : t.bridge.session = some session) :
    ∃ connection hub,
      ss.foldl closedStream t =
        { bridge := { t.bridge with
            session := some
              { connection, listener := session.listener.map (ss.foldl .streamClosed) } }
          hub } ∧
      t.hub.Quiet hub ∧
      (ss.foldl closedStream t).view = t.view.andCalls (ss.map fun s => .told (.streamClosed s)) := by
  induction ss generalizing t session with
  | nil =>
      refine ⟨session.connection, t.hub, ?_, .refl t.hub, by simp⟩
      simp [← hsession]
  | cons s ss ih =>
      have hquiet : t.hub.Quiet (t.closedStream s).hub :=
        .of_same rfl rfl (List.Subset.refl _) (List.suffix_cons _ _)
      have hnext : (t.closedStream s).bridge.session = some
          { connection := (Connection.respond session.connection (.streamClosed s)).1
            listener := session.listener.map (·.streamClosed s) } := by
        simp [closedStream, hsession]
      obtain ⟨connection, hub, hstate, hrest, hview⟩ := ih hnext
      refine ⟨connection, hub, ?_, hquiet.trans hrest, ?_⟩
      · rw [List.foldl_cons, hstate]
        simp [closedStream, Function.comp_def]
      · rw [List.foldl_cons, hview, view_closedStream]
        simp

/-! ### The farewell -/

omit [Decoder δ] in
/-- Where neither the connection nor the hooks send anything, telling them of the end changes only
the state of the connection and what is on record. -/
theorem quiet_sayGoodbye (hprompt : Connection.IsPrompt σ) (hrecords : Connection.Records σ)
    {t : Turn κ σ δ} {session : Session σ δ} (hsession : t.bridge.session = some session)
    (hhooks : ∀ hook ∈ t.bridge.hooks.removed, ∀ a ∈ hook, a.isMute) :
    (∃ connection hub,
      t.sayGoodbye.state =
        { bridge := { t.bridge with session := some { session with connection } }, hub } ∧
      t.hub.Quiet hub) ∧
    (t.sayGoodbye.stop = none ↔ ∀ hook ∈ t.bridge.hooks.removed, ∀ m, .panic m ∉ hook) := by
  have hestablished : t.bridge.isEstablished = true := by simp [Bridge.isEstablished, hsession]
  let told : Turn κ σ δ :=
    { bridge := { t.bridge with
        session := some { session with
          connection := (Connection.respond session.connection .closed).1 } }
      hub := (t.hub.record t.bridge.id .handedOver).record t.bridge.id (.callback .closed) }
  have htold : t.handOver .closed = .done told := by
    simp only [handOver, hsession, if_pos (hprompt session.connection)]
    exact tell_of_silent (t := t.record .handedOver) hsession nofun
      (hrecords session.connection .closed rfl)
  have hbefore : t.hub.Quiet told.hub :=
    (Hub.Quiet.record t.hub t.bridge.id .handedOver).trans (.record _ t.bridge.id _)
  rw [sayGoodbye, if_pos hestablished, htold, Run.andThen_done]
  obtain ⟨hub, hstate, hquiet⟩ := quiet_runHooks .removed hhooks 0 told
  exact ⟨⟨_, hub, hstate, hbefore.trans hquiet⟩, stop_runHooks_iff .removed _ 0 told⟩

omit [Decoder δ] in
/-- What is left of a bridge once it was torn down, where neither the connection nor the
hooks send anything. -/
theorem quiet_tearDown (hprompt : Connection.IsPrompt σ) (hrecords : Connection.Records σ)
    {t : Turn κ σ δ} {session : Session σ δ} (hsession : t.bridge.session = some session)
    (hhooks : ∀ hook ∈ t.bridge.hooks.removed, ∀ a ∈ hook, a.isMute) (hmute : t.hub.IsMute) :
    (∃ connection state hub,
      t.tearDown.state =
        { bridge := { t.bridge with
            channel := t.bridge.channel.markInactive.1
            session := some { session with connection }
            state }
          hub } ∧
      t.hub.Quiet hub ∧ (∀ r ∈ t.bridge.channel.markInactive.2, r.IsKnown hub) ∧
      (t.tearDown.stop = none → state = .closed)) ∧
    (t.tearDown.stop = none ↔ ∀ hook ∈ t.bridge.hooks.removed, ∀ m, .panic m ∉ hook) := by
  obtain ⟨hshut, hknown⟩ := Hub.quiet_resolveAll hmute t.bridge.channel.markInactive.2
  obtain ⟨⟨connection, hub, hstate, hquiet⟩, hstop⟩ :=
    quiet_sayGoodbye (t := t.shut) hprompt hrecords hsession hhooks
  have hlasting : ∀ r ∈ t.bridge.channel.markInactive.2, r.IsKnown hub :=
    fun r hr w hw => hquiet.journal.subset (hknown r hr w hw)
  have hfirst : t.hub.Quiet hub := hshut.trans hquiet
  by_cases hend : t.shut.sayGoodbye.stop = none
  · rw [tearDown, Run.andThen_of_done hend, hstate]
    refine ⟨⟨connection, .closed, _, rfl, hfirst.trans ?_, hlasting, fun _ => rfl⟩, ?_⟩
    · exact .of_same rfl rfl (List.Subset.refl _) List.suffix_rfl
    · exact iff_of_true rfl (hstop.mp hend)
  · rw [tearDown, Run.andThen_of_stopped hend]
    refine ⟨⟨connection, t.bridge.state, hub, hstate, hfirst, hlasting, ?_⟩, hstop⟩
    exact fun h => absurd h hend

omit [Decoder δ] in
/-- The connection is told of the end, and the last hooks are called. -/
theorem calls_tearDown (hprompt : Connection.IsPrompt σ) {t : Turn κ σ δ}
    (hestablished : t.bridge.isEstablished = true) (hend : t.tearDown.stop = none) :
    t.tearDown.state.calls = t.calls ++ farewell t.bridge.hooks := by
  have hview : t.shut.view.isEstablished = true := hestablished
  obtain ⟨hbye, -⟩ := Run.stop_andThen.mp hend
  have hshows := (shows_sayGoodbye hprompt t.shut).1 hbye
  rw [if_pos hview, view_shut] at hshows
  rw [tearDown, Run.state_andThen hbye]
  exact congrArg (fun v : View => v.story.calls) hshows

/-! ### The end -/

variable {t : Turn LineCodec σ δ}

/-- The turn after the codec let go of its streams, as soon as no word of them is left. -/
def released (t : Turn LineCodec σ δ) : Turn LineCodec σ δ where
  bridge := { t.bridge with codec := { t.bridge.codec with openStreams := .empty } }
  hub := t.hub.record t.bridge.id (.codec .inactive)

omit [Connection σ] [Decoder δ] in
theorem calls_released : t.entered.released.calls = t.calls :=
  (calls_record t.entered (.codec .inactive)).trans
    ((List.append_nil _).trans (calls_of_view (view_enter t t.bridge.id)))

omit [Connection σ] [Decoder δ] in
/-- A codec of lines that lets go of its streams leaves word of each. -/
theorem letGo_of_idle {loop : LoopId} (hscope : t.hub.scope = some ⟨loop, []⟩)
    (hleft : t.bridge.channel.notifications = []) :
    t.letGo = t.released.onChannel ({ · with
      notifications := t.bridge.codec.openStreams.toList.map (.stream .closed) }) := by
  have hidle : t.catchUp = t := congrArg t.withOutlet (Outlet.catchUp_of_idle hscope)
  have hrequests : (Codec.deactivate t.bridge.codec).requests =
      (t.bridge.codec.openStreams.toList.map (Event.stream .closed)).map .notify := by
    simp only [List.map_map]
    rfl
  rw [letGo, hidle, onOutlet, Outlet.call]
  simp only [outlet, hrequests, Outlet.foldl_notify]
  simp only [Outlet.record, hleft, List.nil_append]
  rfl

/-- A bridge that is told that its transport is gone, where nothing is left from before, tells a
connection that records of each stream that the codec knew, and is torn down. -/
theorem deactivate_eq (hrecords : Connection.Records σ) {rounds : Nat}
    (hrounds : t.bridge.codec.openStreams.toList.length ≤ rounds) (hclear : t.IsClear)
    (hfree : t.hub.isCurrent t.bridge.id = false) (hopen : t.bridge.state ≠ .closed)
    (hestablished : t.bridge.isEstablished = true) :
    t.deactivate rounds =
      ((t.bridge.codec.openStreams.toList.foldl closedStream t.entered.released).tearDown.andThen
        (settle rounds)).map fun t' => t'.leaving t.bridge.id t.hub.scope := by
  have hscope : t.entered.hub.scope = some ⟨t.bridge.id, []⟩ := by
    simp [entered, Hub.enter, hfree]
  have hquiet : t.entered.released.onChannel ({ · with notifications := [] }) =
      t.entered.released := by
    have hleft : [] = t.entered.released.bridge.channel.notifications := hclear.2.symm
    simp only [onChannel, hleft]
  have htold := settle_of_closed hrecords t.bridge.codec.openStreams.toList hrounds
    (t := t.entered.released.onChannel ({ · with
      notifications := t.bridge.codec.openStreams.toList.map (.stream .closed) }))
    hopen hestablished hscope hclear.1 rfl
  have htold : t.entered.letGo.settle rounds =
      .done (t.bridge.codec.openStreams.toList.foldl closedStream t.entered.released) := by
    rw [letGo_of_idle hscope hclear.2, ← hquiet]
    exact htold
  rw [deactivate, if_neg hopen]
  change Run.map (fun t' => t'.leaving t.bridge.id t.hub.scope)
    (((settle rounds t.entered.letGo).andThen tearDown).andThen (settle rounds)) = _
  rw [htold, Run.andThen_done]

/-- What a bridge has come to when its transport is gone, and what was said of that. -/
theorem exists_deactivate (hprompt : Connection.IsPrompt σ) (hrecords : Connection.Records σ)
    {rounds : Nat} (hrounds : t.bridge.codec.openStreams.toList.length ≤ rounds) (hclear : t.IsClear)
    (hfree : t.hub.isCurrent t.bridge.id = false) (hopen : t.bridge.state ≠ .closed)
    {session : Session σ δ} (hsession : t.bridge.session = some session) (hmute : t.hub.IsMute)
    (hhooks : ∀ hook ∈ t.bridge.hooks.removed, ∀ a ∈ hook, a.isMute) :
    (∃ connection state hub,
      (t.deactivate rounds).state =
        { bridge := { t.bridge with
            codec := { t.bridge.codec with openStreams := .empty }
            channel := t.bridge.channel.markInactive.1
            session := some
              { connection
                listener := session.listener.map
                  (t.bridge.codec.openStreams.toList.foldl .streamClosed) }
            state }
          hub } ∧
      (∀ r ∈ t.bridge.channel.markInactive.2, r.IsKnown hub) ∧
      ((t.deactivate rounds).stop = none → state = .closed)) ∧
    ((t.deactivate rounds).stop = none → (t.deactivate rounds).state.calls = t.calls ++
      (t.bridge.codec.openStreams.toList.map (fun s => .told (.streamClosed s)) ++
        farewell t.bridge.hooks)) ∧
    ((t.deactivate rounds).stop = none ↔ ∀ hook ∈ t.bridge.hooks.removed, ∀ m, .panic m ∉ hook) := by
  have hestablished : t.bridge.isEstablished = true := by simp [Bridge.isEstablished, hsession]
  have henter : t.hub.enter t.bridge.id = { t.hub with scope := some ⟨t.bridge.id, []⟩ } := by
    simp [Hub.enter, hfree]
  have hreleased : t.entered.released.hub.IsMute := by
    simp only [released, entered, henter]
    exact hmute
  -- First the connection is told of the streams.
  let told := t.bridge.codec.openStreams.toList.foldl closedStream t.entered.released
  obtain ⟨connection, hub₁, htold, hquiet, hview⟩ :=
    exists_foldl_closedStream (t := t.entered.released) t.bridge.codec.openStreams.toList hsession
  have hbridge : told.bridge = { t.entered.released.bridge with
      session := some
        { connection
          listener := session.listener.map
            (t.bridge.codec.openStreams.toList.foldl .streamClosed) } } :=
    congrArg (·.bridge) htold
  have hhub : told.hub = hub₁ := congrArg (·.hub) htold
  -- Then it is told of the end.
  obtain ⟨⟨connection', state, hub₂, htorn, hquiet', hknown, hclosed⟩, hstop⟩ :=
    quiet_tearDown (t := told) hprompt hrecords (congrArg (·.session) hbridge)
      (by rw [hbridge]; exact hhooks) (by rw [hhub]; exact hquiet.isMute hreleased)
  rw [hbridge] at htorn hstop hknown
  have hscope : hub₂.scope = some ⟨t.bridge.id, []⟩ := by
    rw [hquiet'.scope, hhub, hquiet.scope]
    exact congrArg Hub.scope henter
  -- Nothing is left to settle, and nothing is dropped when the loop is left.
  have hsettled : told.tearDown.state.isSettled = true := by
    simp [htorn, isSettled, hscope, Channel.markInactive, released, entered, hclear.1, hclear.2]
  have hended : t.deactivate rounds =
      told.tearDown.map fun t' => t'.leaving t.bridge.id t.hub.scope := by
    rw [deactivate_eq hrecords hrounds hclear hfree hopen hestablished,
      andThen_settle_of_isSettled hsettled]
  rw [hended]
  refine ⟨⟨connection', state, (hub₂.leave t.bridge.id t.hub.scope), ?_, ?_, hclosed⟩, ?_, hstop⟩
  · rw [Run.state_map, htorn]
    rfl
  · intro r hr w hw
    rw [Hub.leave_of_idle hfree hscope]
    exact hknown r hr w hw
  · intro hend
    have hfarewell := calls_tearDown (t := told) hprompt (by simp [Bridge.isEstablished, hbridge]) hend
    have htoldCalls : told.calls = t.entered.released.calls ++
        t.bridge.codec.openStreams.toList.map fun s => .told (.streamClosed s) :=
      congrArg (fun v : View => v.story.calls) hview
    refine (calls_of_view (view_leave told.tearDown.state _ _)).trans ?_
    rw [hfarewell, hbridge, htoldCalls, calls_released, List.append_assoc]
    rfl

/-- When the transport is gone, a connection that records is told of every stream that the codec
still had open, each of them once and in order, then that the transport is gone, and then the last
hooks run; there is no other call.  Afterwards the codec has no stream open, a listener remembers
none of those streams, whoever watches a frame that did not reach the transport knows that it never
will, and nothing happens when the transport is gone again.

This is so in every state that a bridge gets into as long as its entries return, if neither the
code that waits for writes nor the last hooks send anything.  If a hook panics, the hooks after it
are not called, and all else is as it would have been. -/
theorem deactivate_closes_streams {b : Builder LineCodec σ δ} {hub : Hub} {rounds : Nat}
    (hprompt : Connection.IsPrompt σ) (hrecords : Connection.Records σ)
    (hrun : Proceeds (b.build hub) t) (hfree : t.hub.isCurrent t.bridge.id = false)
    (hopen : t.bridge.state ≠ .closed) (hestablished : t.bridge.isEstablished = true)
    (hmute : t.hub.IsMute) (hhooks : ∀ hook ∈ t.bridge.hooks.removed, ∀ a ∈ hook, a.isMute)
    (hrounds : t.bridge.codec.openStreams.toList.length ≤ rounds) :
    let streams := t.bridge.codec.openStreams
    let ended := t.deactivate rounds
    (ended.stop = none ↔ ∀ hook ∈ t.bridge.hooks.removed, ∀ m, .panic m ∉ hook) ∧
    (ended.stop = none →
      (∃ closed : List StreamId, closed.Pairwise (fun s s' => s.val < s'.val) ∧
        (∀ s, s ∈ closed ↔ streams.contains s = true) ∧
        ended.state.calls = t.calls ++
          (closed.map (fun s => .told (.streamClosed s)) ++ farewell t.bridge.hooks)) ∧
      ∀ again, ended.state.deactivate again = .done ended.state) ∧
    ended.state.bridge.codec.openStreams = .empty ∧
    (∃ session, ended.state.bridge.session = some session ∧
      session.listener.isSome = t.bridge.isDecoding ∧
      ∀ l ∈ session.listener, ∀ s, streams.contains s = true → l.coding? s = none) ∧
    ∀ f ∈ t.bridge.channel.pending ++ t.bridge.channel.flushed,
      f.promise.abandoned.IsKnown ended.state.hub := by
  intro streams ended
  obtain ⟨session, hsession⟩ := Option.isSome_iff_exists.mp hestablished
  obtain ⟨⟨connection, state, hub', hstate, hknown, hclosed⟩, hcalls, hstop⟩ :=
    exists_deactivate hprompt hrecords hrounds (isClear_of_proceeds hrun) hfree hopen hsession hmute
      hhooks
  have hmem : ∀ s, s ∈ streams.toList ↔ streams.contains s = true := fun s => by
    simp [StreamSet.contains]
  refine ⟨hstop, fun hend => ⟨⟨streams.toList, streams.ascending, hmem, hcalls hend⟩, ?_⟩, ?_⟩
  · intro again
    exact if_pos ((congrArg (·.bridge.state) hstate).trans (hclosed hend))
  · rw [show ended.state = _ from hstate]
    refine ⟨rfl, ⟨_, rfl, ?_, ?_⟩, fun f hf => hknown _ (List.mem_map_of_mem hf)⟩
    · simp [Bridge.isDecoding, hsession]
    · intro l hl s hs
      obtain ⟨l', -, rfl⟩ := Option.map_eq_some_iff.mp hl
      rw [Listener.coding?_foldl_streamClosed, if_pos ((hmem s).mpr hs)]

end Turn

/-- A bridge that decodes bodies.  Its connection promises a stream when it is told of headers. -/
def promising : Builder LineCodec Recorder ToyDecoder where
  codec := {}
  blueprint :=
    { script :=
        { parts := [⟨.headers,
            [.write (.pushId .current (.ofNat 2) .empty (some (.callback, "push")))], 1⟩] }
      occasions := by decide }
  decoders := some ToyDecoder.ofTestCoding
  hooks := { removed := [[.handle none false .isClosed], []] }

/-- The hub of that bridge: the code that waits for the promised stream only asks. -/
def promisingHub : Hub := { reactions := [⟨"push", [{ action := .isClosed }]⟩] }

/-- The moves up to the headers of two streams. -/
def promisingMoves : List Move := opening ++ [.enter (.decode (Bytes.ofText "HEADERS 3\nHEADERS 1\n"))]

/-- The bridge with three streams, and with a push promise that was not flushed. -/
def promisingOpen : Turn LineCodec Recorder ToyDecoder :=
  ((promising.build promisingHub).moves 9 promisingMoves).state

/-- The streams end in ascending order, and the promised one was never announced. -/
theorem deactivate_closes_streams_promising :
    let streams := promisingOpen.bridge.codec.openStreams
    let ended := promisingOpen.deactivate 3
    promisingOpen.bridge.isDecoding = true ∧ promisingOpen.hub.reactions ≠ [] ∧
      streams.toList = [.ofNat 1, .ofNat 2, .ofNat 3] ∧ ended.stop = none ∧
      (∃ closed : List StreamId, closed.Pairwise (fun s s' => s.val < s'.val) ∧
        (∀ s, s ∈ closed ↔ streams.contains s = true) ∧
        ended.state.calls = promisingOpen.calls ++
          (closed.map (fun s => .told (.streamClosed s)) ++
            [.told .closed, .hooked .removed 0, .hooked .removed 1])) ∧
      (∃ session, ended.state.bridge.session = some session ∧
        ∀ l ∈ session.listener, ∀ s, streams.contains s = true → l.coding? s = none) ∧
      ∃ f ∈ promisingOpen.bridge.channel.pending, f.promise.watch?.map (·.label) = some "push" ∧
        f.promise.abandoned.IsKnown ended.state.hub := by
  intro streams ended
  have hopened : ((promising.build promisingHub).moves 9 promisingMoves).stop = none := by
    decide +kernel
  have hmute : promisingOpen.hub.IsMute := by
    show ∀ r ∈ promisingOpen.hub.reactions, ∀ u ∈ r.uses, u.action = .isClosed
    decide +kernel
  have hthree : promisingOpen.bridge.codec.openStreams.toList.length ≤ 3 := by decide +kernel
  obtain ⟨hstop, htold, -, ⟨session, hsession, -, hforgotten⟩, hknown⟩ :=
    Turn.deactivate_closes_streams (t := promisingOpen) Recorder.isPrompt Recorder.records
      (Turn.proceeds_moves 9 promisingMoves hopened) (by decide +kernel) (by decide +kernel)
      (by decide +kernel) hmute (by decide +kernel) hthree
  have hend : ended.stop = none := hstop.mpr (by
    have hhooks : promisingOpen.bridge.hooks.removed = [[.handle none false .isClosed], []] := by
      decide +kernel
    simp [hhooks])
  have hpending : ∃ f ∈ promisingOpen.bridge.channel.pending,
      f.promise.watch?.map (·.label) = some "push" := by decide +kernel
  obtain ⟨f, hf, hwatched⟩ := hpending
  have hfarewell : farewell promisingOpen.bridge.hooks =
      [.told .closed, .hooked .removed 0, .hooked .removed 1] := by decide +kernel
  have hclosed := (htold hend).1
  rw [hfarewell] at hclosed
  exact ⟨by decide +kernel, by decide +kernel, by decide +kernel, hend, hclosed,
    ⟨session, hsession, hforgotten⟩, f, hf, hwatched, hknown f (List.mem_append_left _ hf)⟩

end FrameBridge
