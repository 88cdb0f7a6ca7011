import FrameBridge.Proofs.Fault.Handling
import FrameBridge.Proofs.Law.Deed

/-!
# What a deed changes

How far a bridge has come is told by four things that are changed in different places: its state,
its session, what the session is to be made of, and its channel.  A deed changes them in one of
three ways.

* The bridge goes on: the session stays present or absent, the channel stays open or shut, and the
  state at most goes on to the preface or to a close that was asked for.
* The session is created.
* The bridge comes to its end.

`Turn.Deed.change` says so, for deeds that come to their end and for those that do not.
-/

namespace FrameBridge

/-! ### Channels -/

/-- The channel stays open or shut, stays about to close, and stays empty once it is shut. -/
structure Channel.Stays (c c' : Channel) : Prop where
  isOpen : c'.isOpen = c.isOpen
  closing : c.closeRequested = true → c'.closeRequested = true
  emptied : c.isOpen = false → c.pending = [] ∧ c.flushed = [] → c'.pending = [] ∧ c'.flushed = []

namespace Channel.Stays

variable {c c' c'' : Channel}

theorem refl (c : Channel) : c.Stays c := ⟨rfl, id, fun _ => id⟩

theorem trans (h : c.Stays c') (h' : c'.Stays c'') : c.Stays c'' where
  isOpen := h'.isOpen.trans h.isOpen
  closing hclosing := h'.closing (h.closing hclosing)
  emptied hshut hempty := h'.emptied (h.isOpen.trans hshut) (h.emptied hshut hempty)

theorem write (h : c.Stays c') (f : Outbound) : c.Stays (c'.write f).1 := by
  unfold Channel.write
  split
  · rename_i hactive
    have hopen : c.isOpen = true := by
      rw [← h.isOpen]
      exact (Bool.and_eq_true_iff.mp hactive).1
    refine ⟨h.isOpen, h.closing, fun hshut => ?_⟩
    rw [hopen] at hshut
    cases hshut
  · exact h

theorem flush (h : c.Stays c') : c.Stays c'.flush := by
  refine ⟨h.isOpen, h.closing, fun hshut hempty => ?_⟩
  obtain ⟨hpending, hflushed⟩ := h.emptied hshut hempty
  simp [Channel.flush, hpending, hflushed]

theorem requestClose (h : c.Stays c') : c.Stays c'.requestClose :=
  ⟨h.isOpen, fun _ => rfl, h.emptied⟩

end Channel.Stays

namespace Outlet

variable {κ : Type} {c : Channel}

theorem stays_carryOut {o : Outlet κ} (r : ChannelRequest) (h : c.Stays o.channel) :
    c.Stays (o.carryOut r).channel := by
  cases r with
  | write bytes p => exact h.write _
  | notify e | raise e => exact ⟨h.isOpen, h.closing, h.emptied⟩
  | flush => exact h.flush
  | close => exact h.requestClose

theorem stays_call {α : Type} {o : Outlet κ} (describe : α → CodecCall) (s : CodecStep κ α)
    (h : c.Stays o.channel) : c.Stays (o.call describe s).2.channel :=
  holds_carryOut (Q := fun o => c.Stays o.channel) (fun _ r h => stays_carryOut r h) _ h

variable [Codec κ]

/-- No write takes a channel back. -/
theorem law_stays (c : Channel) :
    Law (fun _ => True) (Regardless fun o : Outlet κ => c.Stays o.channel) where
  hub o := Hub.law_of_constant (c.Stays o.channel)
  good_of_waiting _ _ _ := trivial
  take h := h
  encode _ h := stays_call _ _ h
  call _ h := stays_call _ _ h
  refer _ _ _ h := h
  flush h := h.flush
  close h := h.requestClose
  raise _ _ _ h := ⟨h.isOpen, h.closing, h.emptied⟩

end Outlet

/-! ### Bridges that go on -/

/-- The ways in which a state may change without a session being created or ended, for a channel
that is about to close or not. -/
inductive Lifecycle.Moves (closing : Bool) (now : Lifecycle) : Lifecycle → Prop
  | stay : Moves closing now now
  | preface (h : now = .created) : Moves closing now .prefaceSent
  | close (h : now.rank < Lifecycle.closing.rank) (hclosing : closing = true) :
      Moves closing now .closing

namespace Lifecycle.Moves

variable {closing closing' : Bool} {now next last : Lifecycle}

theorem trans (h : Moves closing now next) (h' : Moves closing' next last)
    (hclosing : closing = true → closing' = true) : Moves closing' now last := by
  cases h with
  | stay => exact h'
  | preface hnow =>
      subst hnow
      cases h' with
      | stay => exact .preface rfl
      | preface hcontra => cases hcontra
      | close _ hclose => exact .close (by decide) hclose
  | close hearly hclose =>
      cases h' with
      | stay => exact .close hearly (hclosing hclose)
      | preface hcontra => cases hcontra
      | close _ hclose' => exact .close hearly hclose'

theorem rank_le (h : Moves closing now next) : now.rank ≤ next.rank := by
  cases h with
  | stay => exact Nat.le_refl _
  | preface hnow =>
      subst hnow
      decide
  | close hearly _ => exact Nat.le_of_lt hearly

/-- Asking for a close is such a change. -/
theorem advance_closing (now : Lifecycle) : Moves true now (now.advance .closing) := by
  unfold advance
  split
  · exact .close ‹_› rfl
  · exact .stay

/-- Going on to the preface is such a change. -/
theorem advance_prefaceSent (closing : Bool) (now : Lifecycle) :
    Moves closing now (now.advance .prefaceSent) := by
  cases now with
  | created => exact .preface rfl
  | prefaceSent | settingsReceived | closing | closed => exact .stay

end Lifecycle.Moves

namespace Bridge

variable {κ σ δ : Type} {b b' b'' : Bridge κ σ δ}

/-- Whether frames go through a listener, once there is a session. -/
def route? (b : Bridge κ σ δ) : Option Bool := b.session.map (·.listener.isSome)

theorem isEstablished_eq (b : Bridge κ σ δ) : b.isEstablished = b.route?.isSome :=
  (Option.isSome_map ..).symm

theorem isDecoding_eq (b : Bridge κ σ δ) : b.isDecoding = b.route?.any (· = true) := by
  unfold isDecoding route?
  cases b.session <;> simp

/-- The bridge only writes. -/
structure Writes (b b' : Bridge κ σ δ) : Prop where
  channel : b.channel.Stays b'.channel
  session : b'.session = b.session
  blueprint : b'.blueprint = b.blueprint
  decoders : b'.decoders = b.decoders
  state : b'.state = b.state

theorem Writes.refl (b : Bridge κ σ δ) : b.Writes b := ⟨.refl _, rfl, rfl, rfl, rfl⟩

theorem Writes.trans (h : b.Writes b') (h' : b'.Writes b'') : b.Writes b'' where
  channel := h.channel.trans h'.channel
  session := h'.session.trans h.session
  blueprint := h'.blueprint.trans h.blueprint
  decoders := h'.decoders.trans h.decoders
  state := h'.state.trans h.state

/-- The bridge goes on without a session being created or ended. -/
structure GoesOn (b b' : Bridge κ σ δ) : Prop where
  channel : b.channel.Stays b'.channel
  route : b'.route? = b.route?
  blueprint : b'.blueprint = b.blueprint
  decoders : b'.decoders = b.decoders
  state : b.state.Moves b'.channel.closeRequested b'.state

namespace GoesOn

theorem refl (b : Bridge κ σ δ) : b.GoesOn b := ⟨.refl _, rfl, rfl, rfl, .stay⟩

theorem trans (h : b.GoesOn b') (h' : b'.GoesOn b'') : b.GoesOn b'' where
  channel := h.channel.trans h'.channel
  route := h'.route.trans h.route
  blueprint := h'.blueprint.trans h.blueprint
  decoders := h'.decoders.trans h.decoders
  state := h.state.trans h'.state h'.channel.closing

theorem writes (h : b.GoesOn b') (h' : b'.Writes b'') : b.GoesOn b'' :=
  h.trans ⟨h'.channel, congrArg (Option.map _) h'.session, h'.blueprint, h'.decoders,
    h'.state ▸ .stay⟩

/-- The connection and the listener of a session may change. -/
theorem session (h : b.GoesOn b') {s : Session σ δ} (hs : some s.listener.isSome = b.route?) :
    b.GoesOn { b' with session := some s } :=
  ⟨h.channel, hs, h.blueprint, h.decoders, h.state⟩

end GoesOn

/-- The three ways in which a bridge changes, where it may be that the change was not finished. -/
inductive Change (finished : Prop) (b b' : Bridge κ σ δ) : Prop
  | goesOn (h : b.GoesOn b')
  | creates (channel : b.channel.Stays b'.channel) (absent : b.session = none)
      (held : b.blueprint.isSome = true) (decoders : b'.decoders = b.decoders)
      (state : b'.state = b.state ∨ b'.state = b.state.advance .settingsReceived)
      (created : finished → b'.state = b.state.advance .settingsReceived ∧ b'.blueprint = none ∧
        b'.route? = some b.decoders.isSome)
  | ends (shut : b'.channel.isOpen = false ∧ b'.channel.pending = [] ∧ b'.channel.flushed = [])
      (closing : b.channel.closeRequested = true → b'.channel.closeRequested = true)
      (route : b'.route? = b.route?) (blueprint : b'.blueprint = b.blueprint)
      (decoders : b'.decoders = b.decoders)
      (state : b.state.Moves b'.channel.closeRequested b'.state ∨ b'.state = .closed)
      (ended : finished → b'.state = .closed)

end Bridge

/-! ### Turns that go on -/

namespace Turn

variable {κ σ δ : Type} {b : Bridge κ σ δ}

theorem writes_withOutlet {t : Turn κ σ δ} {o : Outlet κ}
    (ho : t.bridge.channel.Stays o.channel) : t.bridge.Writes (t.withOutlet o).bridge :=
  ⟨ho, rfl, rfl, rfl, rfl⟩

theorem writes_call {α : Type} (describe : α → CodecCall) (s : CodecStep κ α) (t : Turn κ σ δ) :
    t.bridge.Writes (t.withOutlet (t.outlet.call describe s).2).bridge :=
  writes_withOutlet (Outlet.stays_call (o := t.outlet) describe s (.refl _))

theorem goesOn_close {t : Turn κ σ δ} (h : b.GoesOn t.bridge) : b.GoesOn t.close.bridge := by
  have hstays : t.bridge.channel.Stays t.close.bridge.channel :=
    (Channel.Stays.refl _).requestClose
  exact h.trans ⟨hstays, rfl, rfl, rfl, .advance_closing t.bridge.state⟩

theorem goesOn_afterListening {session : Session σ δ} {listener : Listener δ}
    (hlistener : session.listener = some listener) (s : StreamId) (r : Processed δ)
    {t : Turn κ σ δ} (hsession : t.bridge.session = some session) :
    t.bridge.GoesOn (t.afterListening session s r).bridge := by
  have hheard : t.bridge.GoesOn
      { t.bridge with session := some { session with listener := some r.listener } } := by
    refine (Bridge.GoesOn.refl _).session ?_
    rw [Bridge.route?, hsession, Option.map_some, hlistener]
    rfl
  unfold afterListening
  simp only
  split
  · exact hheard
  · split
    · exact hheard
    · exact hheard

variable [Codec κ]

theorem writes_program (hasWriter : Bool) (now : StreamId) (actions : List Action)
    (t : Turn κ σ δ) : t.bridge.Writes (t.program hasWriter now actions).state.bridge :=
  writes_withOutlet ((Outlet.law_stays t.bridge.channel).program hasWriter now actions
    (o := t.outlet) (.of [] (.refl _)))

theorem writes_catchUp (t : Turn κ σ δ) : t.bridge.Writes t.catchUp.bridge :=
  writes_withOutlet
    ((Outlet.law_stays t.bridge.channel).catchUp (o := t.outlet) (.of [] (.refl _)))

theorem writes_react (e : ProtocolError) (t : Turn κ σ δ) :
    t.bridge.Writes (t.onOutlet (·.react e)).bridge :=
  writes_withOutlet
    ((Outlet.law_stays t.bridge.channel).react e (o := t.outlet) (.of [] (.refl _)))

theorem writes_runHooks (kind : HookKind) (hooks : List (List Action)) (index : Nat)
    {t : Turn κ σ δ} (h : b.Writes t.bridge) :
    b.Writes (runHooks kind index hooks t).state.bridge := by
  induction hooks generalizing index t with
  | nil => exact h
  | cons hook hooks ih =>
      refine Run.holds_andThen (P := fun t : Turn κ σ δ => b.Writes t.bridge) ?_
        fun t h => ih (index + 1) h
      exact h.trans (writes_program false .connection hook (t.record (.hook kind index)))

theorem writes_applyUpgrade (t : Turn κ σ δ) : t.bridge.Writes t.applyUpgrade.bridge := by
  have answered {s : CodecStep κ (Except ProtocolError Unit)}
      {describe : Except ProtocolError Unit → CodecCall} :
      t.bridge.channel.Stays (Outlet.orRaise (t.outlet.call describe s)).channel := by
    have hcall := Outlet.stays_call (o := t.outlet) describe s (.refl _)
    rcases hr : t.outlet.call describe s with ⟨_ | _, o⟩
    · rw [hr] at hcall
      exact ⟨hcall.isOpen, hcall.closing, hcall.emptied⟩
    · rw [hr] at hcall
      exact hcall
  unfold applyUpgrade
  split
  · exact ⟨.refl _, rfl, rfl, rfl, rfl⟩
  · exact ⟨answered, rfl, rfl, rfl, rfl⟩
  · exact ⟨answered, rfl, rfl, rfl, rfl⟩

variable [Connection σ]

theorem writes_callback (connection : σ) (c : Callback) (t : Turn κ σ δ) :
    t.bridge.Writes (t.callback connection c).2.state.bridge := by
  unfold callback
  have hcalled := writes_program c.hasWriter c.currentStream (Connection.respond connection c).2
    (t.record (.callback c))
  cases c with
  | frame f =>
      simp only
      split
      · exact hcalled
      · exact writes_program _ _ _ ((t.record (.callback (.frame f))).notice (.frameIgnored f))
  | _ => exact hcalled

theorem goesOn_tell (c : Callback) {t : Turn κ σ δ} (h : b.GoesOn t.bridge) :
    b.GoesOn (t.tell c).state.bridge := by
  unfold tell
  split
  · exact h
  · rename_i session hsession
    refine (h.writes (writes_callback session.connection c t)).session ?_
    rw [← h.route, Bridge.route?, hsession, Option.map_some]

theorem goesOn_handOver (c : Callback) {t : Turn κ σ δ} (h : b.GoesOn t.bridge) :
    b.GoesOn (t.handOver c).state.bridge := by
  unfold handOver
  split
  · exact h
  · simp only
    split
    · exact goesOn_tell c (t := t.record .handedOver) h
    · exact h

theorem goesOn_onError (e : ProtocolError) {t : Turn κ σ δ} (h : b.GoesOn t.bridge) :
    b.GoesOn (t.onError e).state.bridge := by
  have hannounce : b.GoesOn (t.announce e).state.bridge := by
    cases e with
    | stream s c m => exact goesOn_handOver _ (t := t.notice _) h
    | connection c m => exact goesOn_handOver _ (t := t.notice _) h
  refine Run.holds_andThen (P := fun t : Turn κ σ δ => b.GoesOn t.bridge) hannounce ?_
  intro t h
  exact (h.writes (writes_catchUp t)).writes (writes_react e t.catchUp)

theorem goesOn_onException (e : BridgeError) {t : Turn κ σ δ} (h : b.GoesOn t.bridge) :
    b.GoesOn (t.onException e).state.bridge := by
  unfold onException
  split
  · exact h
  · rw [← bridge_reportException t e] at h
    exact Run.holds_andThen (P := fun t : Turn κ σ δ => b.GoesOn t.bridge)
      (goesOn_onError e.asProtocolError h) fun t h => goesOn_close h

theorem goesOn_onStreamChange (change : StreamChange) (s : StreamId) {t : Turn κ σ δ}
    (h : b.GoesOn t.bridge) : b.GoesOn (t.onStreamChange change s).state.bridge := by
  unfold onStreamChange
  split
  · rename_i session hsession
    refine goesOn_tell _ (h.session ?_)
    rw [← h.route, Bridge.route?, hsession, Option.map_some, Option.isSome_map]
  all_goals exact h

theorem goesOn_tellOr (c : Callback) (n : Notice) {t : Turn κ σ δ} (h : b.GoesOn t.bridge) :
    b.GoesOn (t.tellOr c n).state.bridge := by
  unfold tellOr
  split
  · exact goesOn_tell c h
  · exact h

theorem goesOn_sayGoodbye {t : Turn κ σ δ} (h : b.GoesOn t.bridge) :
    b.GoesOn t.sayGoodbye.state.bridge := by
  unfold sayGoodbye
  split
  · refine Run.holds_andThen (P := fun t : Turn κ σ δ => b.GoesOn t.bridge)
      (goesOn_handOver .closed h) fun t' h => h.writes (writes_runHooks _ _ _ (.refl _))
  · exact h

/-! ### Creation and end -/

/-- While a session is created it is not there yet, and the state goes on before the first
callback. -/
theorem change_establish {t : Turn κ σ δ} {blueprint : σ} (s : Settings)
    (habsent : t.bridge.session = none) (hheld : t.bridge.blueprint = some blueprint) :
    t.bridge.Change ((t.establish blueprint s).stop = none)
      (t.establish blueprint s).state.bridge := by
  have hblueprint : t.bridge.blueprint.isSome = true := by rw [hheld, Option.isSome_some]
  let taken : Turn κ σ δ := { t with bridge := { t.bridge with blueprint := none } }
  have hprepared := writes_program false .connection (Connection.prepare blueprint)
    (taken.record .created)
  refine Run.cases_andThen (P := fun r : Run (Turn κ σ δ) =>
        t.bridge.Change (r.stop = none) r.state.bridge) ?_ ?_
  · intro hstopped
    exact .creates hprepared.channel habsent hblueprint hprepared.decoders (.inl hprepared.state)
      fun hdone => absurd hdone hstopped
  · intro _
    generalize ((taken.record .created).program false .connection
      (Connection.prepare blueprint)).state = prepared at hprepared ⊢
    let known := (prepared.notice (.connectionEstablished prepared.bridge.id
      (t.bridge.decoders.map Listener.ofSource).isSome)).advance .settingsReceived
    have hstate : known.bridge.state = t.bridge.state.advance .settingsReceived :=
      congrArg (Lifecycle.advance · .settingsReceived) hprepared.state
    have htold := Run.holds_andThen (P := fun t : Turn κ σ δ => known.bridge.Writes t.bridge)
      (writes_callback blueprint (.settings s) known)
      (fun t h => writes_runHooks .established known.bridge.hooks.established 0 h)
    refine Run.cases_andThen (P := fun r : Run (Turn κ σ δ) =>
        t.bridge.Change (r.stop = none) r.state.bridge) ?_ ?_
    · intro hstopped
      exact .creates (hprepared.channel.trans htold.channel) habsent hblueprint
        (htold.decoders.trans hprepared.decoders) (.inr (htold.state.trans hstate))
        fun hdone => absurd hdone hstopped
    · intro _
      refine .creates (hprepared.channel.trans htold.channel) habsent hblueprint
        (htold.decoders.trans hprepared.decoders) (.inr (htold.state.trans hstate)) fun _ => ?_
      refine ⟨htold.state.trans hstate, htold.blueprint.trans hprepared.blueprint, ?_⟩
      exact congrArg some Option.isSome_map

/-- When a bridge comes to its end its channel is shut first, and the state follows last. -/
theorem change_tearDown (t : Turn κ σ δ) :
    t.bridge.Change (t.tearDown.stop = none) t.tearDown.state.bridge := by
  have hbye := goesOn_sayGoodbye (t := t.shut) (.refl _)
  have hempty := hbye.channel.emptied rfl ⟨rfl, rfl⟩
  have hshut := And.intro hbye.channel.isOpen hempty
  refine Run.cases_andThen (P := fun r : Run (Turn κ σ δ) =>
    t.bridge.Change (r.stop = none) r.state.bridge) ?_ ?_
  · intro hstopped
    exact .ends hshut hbye.channel.closing hbye.route hbye.blueprint hbye.decoders
      (.inl hbye.state) fun hdone => absurd hdone hstopped
  · intro _
    exact .ends hshut hbye.channel.closing hbye.route hbye.blueprint hbye.decoders (.inr rfl)
      fun _ => rfl

theorem change_onEarlyFrame (f : Frame) {t : Turn κ σ δ} (habsent : t.bridge.session = none) :
    t.bridge.Change ((t.onEarlyFrame f).stop = none) (t.onEarlyFrame f).state.bridge := by
  unfold onEarlyFrame
  split
  · rename_i s blueprint hheld
    exact change_establish s habsent hheld
  · exact .goesOn (goesOn_onException _ (.refl _))
  · split
    · exact .goesOn (goesOn_onException _ (.refl _))
    · exact .goesOn (goesOn_onException _ (.refl _))

variable [Decoder δ]

theorem change_onFrame (f : Frame) (t : Turn κ σ δ) :
    t.bridge.Change ((t.onFrame f).stop = none) (t.onFrame f).state.bridge := by
  unfold onFrame
  split
  · rename_i habsent
    exact change_onEarlyFrame f habsent
  · rename_i session hsession
    split
    · exact .goesOn (goesOn_tell _ (.refl _))
    · rename_i listener hlistener
      have hheard := goesOn_afterListening hlistener (f.stream?.getD .connection)
        (listener.process f) hsession
      have htold := Run.holds_each (P := fun t' : Turn κ σ δ => t.bridge.GoesOn t'.bridge)
        (fun t f h => goesOn_tell (.frame f) h) (listener.process f).frames hheard
      refine .goesOn (Run.holds_andThen (P := fun t' : Turn κ σ δ => t.bridge.GoesOn t'.bridge)
        htold ?_)
      intro t' h
      split
      · exact h
      · exact goesOn_onError _ (t := t'.meter _) h

theorem change_route (e : Event) (t : Turn κ σ δ) :
    t.bridge.Change ((t.route e).stop = none) (t.route e).state.bridge := by
  let arrived : Turn κ σ δ := { t with hub := t.hub.arrive t.bridge.id e }
  have harrived : t.bridge.GoesOn arrived.bridge := .refl _
  unfold route
  split
  · exact .goesOn (.refl _)
  · cases e with
    | frame f => exact change_onFrame f (arrived.meter Metrics.countInbound)
    | stream change s => exact .goesOn (goesOn_onStreamChange change s harrived)
    | goAway g => exact .goesOn (goesOn_tellOr (.goAway g) (.goAwayEarly g) harrived)
    | writabilityChanged s =>
        exact .goesOn (goesOn_tellOr (.writabilityChanged s) (.writabilityEarly s) harrived)
    | error e => exact .goesOn (goesOn_onError e (t := arrived.meter _) harrived)

/-- A deed lets a bridge go on, or creates its session, or leads to its end. -/
theorem Deed.change {t : Turn κ σ δ} {r : Run (Turn κ σ δ)} (h : Deed t r) :
    t.bridge.Change (r.stop = none) r.state.bridge := by
  have only {t' : Turn κ σ δ} (h : t.bridge.Writes t'.bridge) :
      t.bridge.Change ((Run.done t').stop = none) (Run.done t').state.bridge :=
    .goesOn ((Bridge.GoesOn.refl _).writes h)
  cases h with
  | program actions =>
      exact .goesOn ((Bridge.GoesOn.refl _).writes (writes_program true .connection actions t))
  | write c =>
      exact only (writes_withOutlet ((Outlet.law_stays t.bridge.channel).write trivial
        (o := t.outlet) (.of [_] (.refl _))))
  | catchUp => exact only (writes_catchUp t)
  | notice n => exact only (.refl _)
  | flush => exact only (writes_withOutlet (Channel.Stays.refl _).flush)
  | close => exact .goesOn (goesOn_close (.refl _))
  | preface =>
      have hcalled := writes_call (fun _ => .preface) (Codec.activate t.bridge.codec) t
      refine .goesOn (((Bridge.GoesOn.refl _).writes hcalled).trans ?_)
      exact ⟨.refl _, rfl, rfl, rfl, .advance_prefaceSent _ _⟩
  | upgrade => exact only (writes_applyUpgrade t)
  | decode input =>
      exact only (writes_withOutlet (Outlet.holds_carryOut
        (Q := fun o => t.bridge.channel.Stays o.channel)
        (fun _ r h => Outlet.stays_carryOut r h) _ (.refl _)))
  | takeFault => exact only ⟨⟨rfl, id, fun _ => id⟩, rfl, rfl, rfl, rfl⟩
  | takeNotification => exact only ⟨⟨rfl, id, fun _ => id⟩, rfl, rfl, rfl, rfl⟩
  | onException e => exact .goesOn (goesOn_onException e (.refl _))
  | route e => exact change_route e t
  | letGo =>
      exact only ((writes_catchUp t).trans
        (writes_call (fun _ => .inactive) (Codec.deactivate t.catchUp.bridge.codec) t.catchUp))
  | tearDown => exact change_tearDown t

end Turn

end FrameBridge
