import FrameBridge.Bridge.Builder
import FrameBridge.Proofs.Calls.Life
import FrameBridge.Rehearsal.LineCodec
import FrameBridge.Rehearsal.Script
import FrameBridge.Rehearsal.ToyDecoder

/-!
# The order of calls

The calls that a bridge makes to its application are a life, whatever the transport, the
codec and the application do.

The proof follows the view of the bridge through its functions.  The one function that leads
from an active bridge to one that has ended is `Turn.deactivate`, and nothing leads back.
-/

namespace FrameBridge

namespace Turn

variable {κ σ δ : Type}

@[simp] theorem view_reportException (t : Turn κ σ δ) (e : BridgeError) :
    (t.reportException e).view = t.view := by
  unfold reportException
  split <;> rfl

theorem view_afterListening {t : Turn κ σ δ} {session : Session σ δ}
    (hsession : t.bridge.session = some session) (s : StreamId) (r : Processed δ) :
    (t.afterListening session s r).view = t.view := by
  have hkept : Turn.view { t with bridge := { t.bridge with
      session := some { session with listener := r.listener } } } = t.view := by
    simp only [view, hsession]
    rfl
  unfold afterListening
  simp only
  split
  · exact hkept
  · split
    · rw [view_notice, view_record, hkept]
      simp [Entry.call?]
    · rw [view_record, hkept]
      simp [Entry.call?]

theorem isEnding_of_closed {t : Turn κ σ δ} (h : t.view.isClosed = true) :
    t.bridge.state.isEnding = true := by
  have hclosed : t.bridge.state = .closed := by simpa [view] using h
  rw [hclosed]
  rfl

variable [Codec κ]

/-- A run that is never given up, and reaches its end in a view with `P`. -/
abbrev Shows (P : View → Prop) (r : Run (Turn κ σ δ)) : Prop :=
  r.Yields (fun t => P t.view) fun _ => False

theorem stop_program (hasWriter : Bool) (now : StreamId) (actions : List Action)
    (t : Turn κ σ δ) : (t.program hasWriter now actions).stop ≠ some .unsettled := by
  refine Run.stop_each_ne (f := Outlet.step hasWriter now) ?_ actions t.outlet
  intro o a hstop
  cases a <;> cases hstop

theorem shows_program (hasWriter : Bool) (now : StreamId) (actions : List Action)
    (t : Turn κ σ δ) : Shows (· = t.view) (t.program hasWriter now actions) :=
  .of_state (view_program hasWriter now actions t) (stop_program hasWriter now actions t)

/-- Hooks are called once each and in order. -/
theorem shows_runHooks (kind : HookKind) (hooks : List (List Action)) (index : Nat)
    (t : Turn κ σ δ) :
    Shows (· = t.view.andCalls ((List.range' index hooks.length).map (.hooked kind)))
      (runHooks kind index hooks t) := by
  induction hooks generalizing index t with
  | nil =>
      apply Run.Yields.done
      simp
  | cons hook hooks ih =>
      apply (shows_program false .connection hook _).andThen
      intro t' ht'
      rw [view_record] at ht'
      refine (ih (index + 1) t').mono ?_ fun _ h => h
      intro t'' ht''
      rw [ht'', ht']
      simp [Entry.call?, List.range'_succ]

variable [Connection σ]

/-- A call to a connection is one call, whatever the connection does. -/
theorem shows_callback (connection : σ) (c : Callback) (t : Turn κ σ δ) :
    Shows (· = t.view.andCalls [.told c]) (t.callback connection c).2 := by
  have hrecord : (t.record (.callback c)).view = t.view.andCalls [.told c] := by
    rw [view_record]
    rfl
  rw [← hrecord]
  unfold callback
  cases c with
  | frame f =>
      simp only
      split
      · exact shows_program _ _ _ _
      · exact shows_program _ _ _ _
  | _ => exact shows_program _ _ _ _

/-- A connection that exists is told of something once. -/
theorem shows_tell (c : Callback) (t : Turn κ σ δ) : Shows (· = t.view.told c) (t.tell c) := by
  unfold tell
  split
  · rename_i hnone
    apply Run.Yields.done
    simp [View.told, view, hnone]
  · rename_i session hsome
    have hold : t.view.told c = t.view.andCalls [.told c] := by
      simp [View.told, view, hsome]
    rw [hold]
    refine (shows_callback session.connection c t).map ?_ fun _ h => h
    intro t' ht'
    have hestablished : t'.view.isEstablished = true := by
      rw [ht', View.isEstablished_andCalls]
      simp [view, hsome]
    rw [← ht']
    simp only [view] at hestablished ⊢
    rw [hestablished]
    rfl

/-- The connection comes into being by its birth, whatever the application does meanwhile. -/
theorem shows_establish (blueprint : σ) (s : Settings) (t : Turn κ σ δ) :
    Shows (· = t.view.born s) (t.establish blueprint s) := by
  unfold establish
  apply (shows_program _ _ _ _).andThen
  intro t₁ ht₁
  have hcreated : t₁.view = { t.view.andCalls [.created] with isFresh := false } := by
    rw [ht₁, view_record]
    rfl
  apply Run.Yields.andThen (P := fun t' => t'.view = { t.view.andCalls (birth t.view.hooks s) with
    isFresh := false })
  · apply (shows_callback _ _ _).andThen
    intro t₂ ht₂
    rw [view_advance (by decide), view_notice, hcreated] at ht₂
    have hhooks : t₁.bridge.hooks = t.view.hooks := by
      have h := congrArg View.hooks hcreated
      exact h
    refine (shows_runHooks .established t₁.bridge.hooks.established 0 t₂).mono ?_ fun _ h => h
    intro t₃ ht₃
    rw [ht₃, ht₂, hhooks]
    simp [birth, Hooks.callsOf, Hooks.of, View.andCalls, List.range_eq_range']
  · intro t₄ ht₄
    exact .done (congrArg (fun v : View => { v with isEstablished := true }) ht₄)

/-- A prompt connection that exists is told of what is handed over once. -/
theorem shows_handOver (hprompt : Connection.IsPrompt σ) (c : Callback) (t : Turn κ σ δ) :
    Shows (· = t.view.told c) (t.handOver c) := by
  have hrecord : (t.record .handedOver).view = t.view := by
    rw [view_record]
    simp [Entry.call?]
  unfold handOver
  split
  · rename_i hnone
    apply Run.Yields.done
    simp [View.told, view, hnone]
  · rename_i session hsome
    simp only [hprompt session.connection, if_true]
    rw [← hrecord]
    exact shows_tell c _

variable {start : View} (hnew : start.IsNew)

include hnew

/-- News keep a bridge active. -/
theorem active_tell {c : Callback} (hc : c.isNews) {t : Turn κ σ δ}
    (h : View.Active start t.view) : Shows (View.Active start) (t.tell c) := by
  refine (shows_tell c t).mono ?_ fun _ h => h
  intro t' ht'
  rw [ht']
  exact h.told hnew hc

theorem active_tellOr {c : Callback} (hc : c.isNews) (n : Notice) {t : Turn κ σ δ}
    (h : View.Active start t.view) : Shows (View.Active start) (t.tellOr c n) := by
  unfold tellOr
  split
  · exact active_tell hnew hc h
  · exact .done h

theorem active_onStreamChange (change : StreamChange) (s : StreamId) {t : Turn κ σ δ}
    (h : View.Active start t.view) : Shows (View.Active start) (t.onStreamChange change s) := by
  unfold onStreamChange
  split
  · rename_i session hsession
    apply active_tell hnew rfl
    simp only [view, hsession] at h
    exact h
  · exact .done h
  all_goals exact .done h

variable (hprompt : Connection.IsPrompt σ)

include hprompt

theorem active_onError (e : ProtocolError) {t : Turn κ σ δ} (h : View.Active start t.view) :
    Shows (View.Active start) (t.onError e) := by
  have hannounce : Shows (View.Active start) (t.announce e) := by
    cases e with
    | stream s c m =>
        refine (shows_handOver hprompt _ _).mono ?_ fun _ h => h
        intro t' ht'
        rw [ht', view_notice]
        exact h.told hnew rfl
    | connection c m =>
        refine (shows_handOver hprompt _ _).mono ?_ fun _ h => h
        intro t' ht'
        rw [ht', view_notice]
        exact h.told hnew rfl
  apply hannounce.andThen
  intro t' ht'
  apply Run.Yields.done
  rw [view_react, view_catchUp]
  exact ht'

theorem active_onException (e : BridgeError) {t : Turn κ σ δ} (h : View.Active start t.view) :
    Shows (View.Active start) (t.onException e) := by
  unfold onException
  split
  · exact .done h
  · rw [← view_reportException t e] at h
    apply (active_onError hnew hprompt _ h).andThen
    intro t' ht'
    apply Run.Yields.done
    rw [view_close]
    exact ht'

theorem active_onViolation (e : ProtocolError) {t : Turn κ σ δ} (h : View.Active start t.view) :
    Shows (View.Active start) (t.onViolation e) :=
  active_onError hnew hprompt e h

/-- A frame for a connection that does not exist yet leaves the bridge active: settings give
birth to the connection. -/
theorem active_onEarlyFrame (f : Frame) {t : Turn κ σ δ}
    (h : t.view = start.andSettings (Event.settings? (.frame f)).toList) :
    Shows (View.Active start) (t.onEarlyFrame f) := by
  have hblueprint : t.bridge.blueprint.isSome = true := by
    have hfresh := congrArg View.isFresh h
    exact hfresh.trans hnew.isFresh
  -- Frames other than settings bring nothing to the view, so nothing has happened yet.
  have hactive (hother : ∀ s, f ≠ .settings s) : View.Active start t.view := by
    have hstart : t.view = start := by
      cases f with
      | settings s => exact absurd rfl (hother s)
      | _ => exact h.trans (View.andSettings_nil start)
    rw [hstart]
    exact .unborn
  unfold onEarlyFrame
  split
  · rename_i s blueprint hsome
    refine (shows_establish blueprint s t).mono ?_ fun _ h => h
    intro t' ht'
    rw [ht', h]
    exact View.Active.born start s
  · rename_i s hnone
    rw [hnone] at hblueprint
    cases hblueprint
  · rename_i hother hnone
    have hkept := hactive fun s hs => by
      obtain ⟨blueprint, hsome⟩ := Option.isSome_iff_exists.mp hblueprint
      exact hother s blueprint hs hsome
    split
    · exact active_onException hnew hprompt _ hkept
    · exact active_onException hnew hprompt _ hkept

variable [Decoder δ]

theorem active_onFrame (f : Frame) {v : View} (hv : View.Active start v) {t : Turn κ σ δ}
    (h : t.view = v.andSettings (Event.settings? (.frame f)).toList) :
    Shows (View.Active start) (t.onFrame f) := by
  have hestablished : t.bridge.session.isSome = v.isEstablished := congrArg View.isEstablished h
  unfold onFrame
  split
  · rename_i hnone
    rw [hnone] at hestablished
    -- Without a connection the view is still the first one.
    have hstart : v = start := by
      cases hv with
      | unborn => rfl
      | alive hnews => cases hestablished
    rw [hstart] at h
    exact active_onEarlyFrame hnew hprompt f h
  · rename_i session hsession
    rw [hsession] at hestablished
    have hactive : View.Active start t.view := by
      rw [h]
      exact hv.arrive hnew hestablished.symm _
    split
    · exact active_tell hnew rfl hactive
    · rename_i listener hlistener
      rw [← view_afterListening hsession (f.stream?.getD .connection) (listener.process f)]
        at hactive
      apply Run.Yields.andThen (P := fun t => View.Active start t.view)
      · exact Run.Yields.each (fun t f ht => active_tell hnew rfl ht) _ hactive
      · intro t' ht'
        split
        · exact .done ht'
        · exact active_onViolation hnew hprompt _ ht'

/-- An event leaves a bridge active. -/
theorem active_route (e : Event) {t : Turn κ σ δ} (h : View.Active start t.view) :
    Shows (View.Active start) (t.route e) := by
  have harrive := view_arrive t e
  unfold route
  split
  · exact .done h
  · cases e with
    | frame f => exact active_onFrame hnew hprompt f h harrive
    | stream change s =>
        rw [← View.andSettings_nil t.view] at h
        exact active_onStreamChange hnew change s (harrive ▸ h)
    | goAway g =>
        rw [← View.andSettings_nil t.view] at h
        exact active_tellOr hnew rfl _ (harrive ▸ h)
    | writabilityChanged s =>
        rw [← View.andSettings_nil t.view] at h
        exact active_tellOr hnew rfl _ (harrive ▸ h)
    | error e =>
        rw [← View.andSettings_nil t.view] at h
        exact active_onViolation hnew hprompt e (harrive ▸ h)

omit hnew hprompt

/-- What a bridge shows steadily: neither an event nor an error ends it. -/
structure Steady (κ σ δ : Type) [Codec κ] [Connection σ] [Decoder δ] (P : View → Prop) : Prop where
  route : ∀ (t : Turn κ σ δ) e, P t.view → Shows P (t.route e)
  onException : ∀ (t : Turn κ σ δ) e, P t.view → Shows P (t.onException e)

theorem steady_active (hnew : start.IsNew) (hprompt : Connection.IsPrompt σ) :
    Steady κ σ δ (View.Active start) where
  route _ e h := active_route hnew hprompt e h
  onException _ e h := active_onException hnew hprompt e h

/-- The view of a closed bridge stays as it is. -/
theorem steady_of_closed {v : View} (hv : v.isClosed = true) : Steady κ σ δ (· = v) where
  route t e h := by
    have hclosed : t.bridge.state = .closed := by
      rw [← h] at hv
      simpa [view] using hv
    unfold route
    rw [if_pos hclosed]
    exact .done h
  onException t e h := by
    rw [← h] at hv
    unfold onException
    rw [if_pos (by simp [isEnding_of_closed hv])]
    exact .done h

/-- The view of a bridge that has ended stays as it is. -/
theorem steady_ended : Steady κ σ δ (View.Ended start) where
  route t e h := ((steady_of_closed h.isClosed).route t e rfl).mono (fun _ hv => hv ▸ h) fun _ h => h
  onException t e h :=
    ((steady_of_closed h.isClosed).onException t e rfl).mono (fun _ hv => hv ▸ h)
      fun _ h => h

namespace Steady

variable {P : View → Prop} (S : Steady κ σ δ P) (rounds : Nat)

include S

/-- What is shown steadily is shown after settling, however many rounds there are. -/
theorem settle {t : Turn κ σ δ} (h : P t.view) :
    (t.settle rounds).Yields (fun t => P t.view) fun t => P t.view := by
  -- Application code is never given up, so the second half of what it yields is empty.
  have weaken {r : Run (Turn κ σ δ)} (hr : Shows P r) :
      r.Yields (fun t => P t.view) fun t => P t.view :=
    hr.mono (fun _ h => h) fun _ h => h.elim
  induction rounds generalizing t with
  | zero =>
      unfold Turn.settle
      split
      · exact .done h
      · exact .unsettled h
  | succ rounds ih =>
      unfold Turn.settle
      split
      · rename_i fault faults hfaults
        refine (weaken (S.onException _ fault ?_)).andThen fun t h => ih h
        exact h
      · split
        · refine ih ?_
          rw [view_catchUp]
          exact h
        · split
          · rename_i e notifications hnotifications
            refine (weaken (S.route _ e ?_)).andThen fun t h => ih h
            exact h
          · exact .done h

/-- What is shown steadily is shown after an entry whose own code keeps it. -/
theorem enter {Q : View → Prop} {t : Turn κ σ δ} {body : Turn κ σ δ → Run (Turn κ σ δ)}
    (hbody : (body { t with hub := t.hub.enter t.bridge.id }).Yields (fun t => P t.view)
      fun t => Q t.view) (hQ : ∀ v, P v → Q v) :
    (t.enter rounds body).Yields (fun t => P t.view) fun t => Q t.view := by
  have hsettled := hbody.andThen fun t h =>
    (S.settle rounds h).mono (fun _ h => h) fun t => hQ t.view
  unfold Turn.enter onLoop
  refine hsettled.map ?_ ?_
  · intro t' h
    rw [view_leave]
    exact h
  · intro t' h
    rw [view_leave]
    exact h

theorem enter_of_shows {t : Turn κ σ δ} {body : Turn κ σ δ → Run (Turn κ σ δ)}
    (hbody : ∀ t : Turn κ σ δ, P t.view → Shows P (body t)) (h : P t.view) :
    (t.enter rounds body).Yields (fun t => P t.view) fun t => P t.view := by
  rw [← view_enter t t.bridge.id] at h
  exact S.enter rounds ((hbody _ h).mono (fun _ h => h) fun _ h => h.elim) fun _ h => h

theorem decode (input : Bytes) {t : Turn κ σ δ} (h : P t.view) :
    (t.decode rounds input).2.Yields (fun t => P t.view) fun t => P t.view := by
  refine S.enter rounds ?_ fun _ h => h
  apply Run.Yields.each
  · intro t e h
    exact ((S.route t e h).mono (fun _ h => h) fun _ h => h.elim).andThen fun t h =>
      S.settle rounds h
  · rw [view_carryOut, view_enter]
    exact h

/-- What is shown steadily is shown after every way into a bridge but the last. -/
theorem enterBy {e : Entrance} (he : e ≠ .deactivate) {t : Turn κ σ δ} (h : P t.view) :
    (t.enterBy rounds e).Yields (fun t => P t.view) fun t => P t.view := by
  cases e with
  | activate =>
      refine S.enter_of_shows rounds (fun t h => ?_) h
      apply Run.Yields.done
      rw [view_notice, view_flush, view_applyUpgrade, view_advance (by decide)]
      exact (view_call t _ _).symm ▸ h
  | deactivate => exact absurd rfl he
  | close =>
      apply Run.Yields.done
      rw [view_close]
      exact h
  | decode input => exact S.decode rounds input h
  | event e => exact S.enter_of_shows rounds (fun t h => S.route t e h) h
  | write actions =>
      refine S.enter_of_shows rounds (fun t h => ?_) h
      exact (shows_program _ _ _ t).mono (fun t' ht' => ht' ▸ h) fun _ h => h
  | withConnection actions =>
      refine S.enter_of_shows rounds (fun t h => ?_) h
      exact (shows_program _ _ _ t).mono (fun t' ht' => ht' ▸ h) fun _ h => h
  | idle k =>
      refine S.enter_of_shows rounds (fun t h => ?_) h
      cases k with
      | all =>
          apply Run.Yields.done
          rw [view_close, view_notice]
          exact h
      | reader | writer => exact .done h
  | exception e => exact S.enter_of_shows rounds (fun t h => S.onException t e h) h

theorem move {m : Move} (hm : m ≠ .enter .deactivate) {t : Turn κ σ δ} (h : P t.view) :
    (t.move rounds m).Yields (fun t => P t.view) fun t => P t.view := by
  cases m with
  | enter e => exact S.enterBy rounds (fun he => hm (congrArg Move.enter he)) h
  | apply c =>
      refine S.enter_of_shows rounds (fun t h => ?_) h
      apply Run.Yields.done
      rw [view_write]
      exact h

end Steady

omit [Decoder δ] in
/-- The connection is told that the transport is gone, and the last hooks are called, if there is
a connection. -/
theorem shows_sayGoodbye (hprompt : Connection.IsPrompt σ) (t : Turn κ σ δ) :
    Shows (· = t.view.andCalls (if t.view.isEstablished then farewell t.view.hooks else []))
      t.sayGoodbye := by
  unfold sayGoodbye
  by_cases hestablished : t.bridge.isEstablished = true
  · have hview : t.view.isEstablished = true := hestablished
    rw [if_pos hestablished, if_pos hview]
    apply (shows_handOver hprompt .closed t).andThen
    intro t₁ ht₁
    refine (shows_runHooks .removed t.bridge.hooks.removed 0 t₁).mono ?_ fun _ h => h
    intro t₂ ht₂
    have hhooks : t.bridge.hooks = t.view.hooks := rfl
    rw [ht₂, ht₁, hhooks]
    simp [View.told, hview, farewell, Hooks.callsOf, Hooks.of, List.range_eq_range']
  · have hview : ¬ t.view.isEstablished = true := hestablished
    rw [if_neg hestablished, if_neg hview]
    apply Run.Yields.done
    rw [view_notice, View.andCalls_nil]

omit [Decoder δ] in
/-- An active bridge has ended once it was torn down. -/
theorem ended_tearDown (hprompt : Connection.IsPrompt σ) {t : Turn κ σ δ}
    (h : View.Active start t.view) : Shows (View.Ended start) t.tearDown := by
  unfold tearDown
  apply (shows_sayGoodbye hprompt t.shut).andThen
  intro t' ht'
  rw [view_shut] at ht'
  have hgone : Turn.view { t' with bridge := { t'.bridge with state := .closed } } = t.view.gone :=
    congrArg (fun v : View => { v with isClosed := true }) ht'
  apply Run.Yields.done
  rw [view_notice, hgone]
  exact .gone h

/-- An active bridge that is told that its transport is gone has ended. -/
theorem ended_deactivate (hnew : start.IsNew) (hprompt : Connection.IsPrompt σ) (rounds : Nat)
    {t : Turn κ σ δ} (h : View.Active start t.view) :
    (t.deactivate rounds).Yields (fun t => View.Ended start t.view)
      fun t => View.Standing start t.view := by
  have hopen : t.bridge.state ≠ .closed := by
    have hclosed := h.isClosed hnew
    simpa [view] using hclosed
  unfold deactivate
  rw [if_neg hopen]
  refine steady_ended.enter rounds ?_ fun _ h => .inr h
  rw [← view_enter t t.bridge.id, ← view_letGo] at h
  have hsettled := (steady_active hnew hprompt).settle rounds h
  refine (hsettled.mono (fun _ h => h) fun _ h => .inl h).andThen fun t' ht' => ?_
  exact (ended_tearDown hprompt ht').mono (fun _ h => h) fun _ h => h.elim

/-- The view of a closed bridge stays as it is in every move. -/
theorem unchanged_move (rounds : Nat) (m : Move) {t : Turn κ σ δ}
    (h : t.view.isClosed = true) :
    (t.move rounds m).Yields (fun t' => t'.view = t.view) fun t' => t'.view = t.view := by
  by_cases hm : m = .enter .deactivate
  · subst hm
    have hclosed : t.bridge.state = .closed := by simpa [view] using h
    have hsame : t.move rounds (.enter .deactivate) = .done t := if_pos hclosed
    rw [hsame]
    exact .done rfl
  · exact (steady_of_closed h).move rounds hm rfl

/-- A bridge keeps standing in every move. -/
theorem standing_move (hnew : start.IsNew) (hprompt : Connection.IsPrompt σ) (rounds : Nat)
    (m : Move) {t : Turn κ σ δ} (h : View.Standing start t.view) :
    (t.move rounds m).Yields (fun t => View.Standing start t.view)
      fun t => View.Standing start t.view := by
  rcases h with hactive | hended
  -- Only the end of an active bridge changes the count; every other move keeps the bridge active.
  · by_cases hm : m = .enter .deactivate
    · subst hm
      exact (ended_deactivate hnew hprompt rounds hactive).mono (fun _ h => .inr h) fun _ h => h
    · exact ((steady_active hnew hprompt).move rounds hm hactive).mono (fun _ h => .inl h)
        fun _ h => .inl h
  · exact (unchanged_move rounds m hended.isClosed).mono (fun _ h => .inr (h ▸ hended))
      fun _ h => .inr (h ▸ hended)

/-- The move that tears down a bridge with a connection is the one that tells the connection
so. -/
theorem count_closed_move (hnew : start.IsNew) (hprompt : Connection.IsPrompt σ) (rounds : Nat)
    (m : Move) {t : Turn κ σ δ} (h : View.Standing start t.view)
    (hstop : (t.move rounds m).stop = none) :
    (t.move rounds m).state.view.story.calls.count (.told .closed) =
      t.view.story.calls.count (.told .closed) +
        if m = .enter .deactivate ∧ t.bridge.state ≠ .closed ∧
          (t.move rounds m).state.bridge.isEstablished then 1 else 0 := by
  rcases h with hactive | hended
  · by_cases hm : m = .enter .deactivate
    · subst hm
      have hopen : t.bridge.state ≠ .closed := by
        have hclosed := hactive.isClosed hnew
        simpa [view] using hclosed
      have hnext := (ended_deactivate hnew hprompt rounds hactive).1 hstop
      have hcount := hnext.count_closed
      rw [hactive.count_closed]
      simp only [hopen, ne_eq, not_false_eq_true, true_and]
      exact hcount
    · have hnext := ((steady_active hnew hprompt).move rounds hm hactive).1 hstop
      rw [if_neg (fun hcond => hm hcond.1), hnext.count_closed, hactive.count_closed]
      rfl
  · have hclosed : t.bridge.state = .closed := by
      have hview := hended.isClosed
      simpa [view] using hview
    have hsame := (unchanged_move rounds m hended.isClosed).1 hstop
    rw [if_neg (fun hcond => hcond.2.1 hclosed), hsame]
    rfl

/-- A bridge keeps standing in a run. -/
theorem standing_moves (hnew : start.IsNew) (hprompt : Connection.IsPrompt σ) (rounds : Nat)
    (ms : List Move) {t : Turn κ σ δ} (h : View.Standing start t.view) :
    (t.moves rounds ms).Yields (fun t => View.Standing start t.view)
      fun t => View.Standing start t.view :=
  Run.Yields.each (fun _ m h => standing_move hnew hprompt rounds m h) ms h

end Turn

/-- A bridge that was just built is new. -/
theorem Builder.isNew_view_build {κ σ δ : Type} (b : Builder κ σ δ) (hub : Hub) :
    (b.build hub).view.IsNew where
  isEstablished := rfl
  isFresh := rfl
  isClosed := rfl

/-- In every run of a bridge in which the application does not panic the calls to the
application are a life whose settings are the first that reached the bridge.  A move tells the
connection that the transport is gone exactly if it tells so a bridge that was not closed, and
the connection exists by then. -/
theorem Builder.isLife_calls_moves {κ σ δ : Type} [Codec κ] [Connection σ] [Decoder δ]
    (hprompt : Connection.IsPrompt σ) (b : Builder κ σ δ) (hub : Hub) (rounds : Nat)
    (ms : List Move)
    (hcalm : ∀ message, ((b.build hub).moves rounds ms).stop ≠ some (.panicked message)) :
    let loop := (b.build hub).bridge.id
    let run := (b.build hub).moves rounds ms
    (∃ calls settings,
      run.state.hub.calls loop = hub.calls loop ++ calls ∧
      run.state.hub.settingsAt loop = hub.settingsAt loop ++ settings ∧
      IsLife b.hooks settings.head? calls) ∧
    ∀ m, run.stop = none → (run.state.move rounds m).stop = none →
      ((run.state.move rounds m).state.hub.calls loop).count (.told .closed) =
        (run.state.hub.calls loop).count (.told .closed) +
          if m = .enter .deactivate ∧ run.state.bridge.state ≠ .closed ∧
            (run.state.move rounds m).state.bridge.isEstablished then 1 else 0 := by
  intro loop run
  have hnew := b.isNew_view_build hub
  have hyields : run.Yields (fun t => View.Standing (b.build hub).view t.view)
      fun t => View.Standing (b.build hub).view t.view :=
    Turn.standing_moves hnew hprompt rounds ms (.inl .unborn)
  have hstanding : View.Standing (b.build hub).view run.state.view := by
    cases hstop : run.stop with
    | none => exact hyields.1 hstop
    | some why =>
        -- A run that is given up for want of rounds stands as well; only panics are ruled out.
        cases why with
        | panicked message => exact absurd hstop (hcalm message)
        | unsettled => exact hyields.2 hstop
  constructor
  · obtain ⟨calls, settings, hstory, hlife⟩ := hstanding.isLife hnew
    have hrun := Turn.story_of_loop hstanding.loop
    rw [hstory] at hrun
    exact ⟨calls, settings, congrArg Story.calls hrun, congrArg Story.settings hrun, hlife⟩
  · intro m hstop hnext
    have hyields' := Turn.standing_move hnew hprompt rounds m hstanding
    have hrun := Turn.story_of_loop hstanding.loop
    have hmove := Turn.story_of_loop (hyields'.1 hnext).loop
    have hcount := Turn.count_closed_move hnew hprompt rounds m hstanding hnext
    rw [← hrun, ← hmove] at hcount
    exact hcount

/-- A connection that pings the peer when it is told of the first settings, with a hook of
either kind. -/
def pinging : Builder LineCodec (Prompt Script) ToyDecoder where
  codec := {}
  blueprint := ⟨{ parts := [⟨.settings, [.write (.ping ⟨1⟩ (some (.callback, "ping")))], 1⟩] }⟩
  hooks := { established := [[.handle none false (.ping ⟨2⟩ "pong")]], removed := [[]] }

/-- A violation of one stream. -/
def violation : ProtocolError := .stream (.ofNat 3) .protocolError "late"

/-- A run from the start of the transport to its end, with a violation in between. -/
def violated : List Move :=
  [.enter .activate, .enter (.event (.frame (.settings .empty))),
    .enter (.event (.error violation)), .enter .deactivate]

theorem isLife_calls_pinging :
    Connection.IsPrompt (Prompt Script) ∧ ((pinging.build {}).moves 9 violated).stop = none ∧
      ((pinging.build {}).moves 9 violated).state.hub.calls ⟨0⟩ =
        [.created, .told (.settings .empty), .hooked .established 0,
          .told (.streamError (.ofNat 3) violation), .told .closed, .hooked .removed 0] ∧
      ∃ calls settings,
        ((pinging.build {}).moves 9 violated).state.hub.calls ⟨0⟩ = calls ∧
        ((pinging.build {}).moves 9 violated).state.hub.settingsAt ⟨0⟩ = settings ∧
        IsLife pinging.hooks settings.head? calls := by
  have hprompt : Connection.IsPrompt (Prompt Script) := fun _ => rfl
  have hstop : ((pinging.build {}).moves 9 violated).stop = none := rfl
  have hcalm : ∀ message,
      ((pinging.build {}).moves 9 violated).stop ≠ some (.panicked message) := by
    intro message
    rw [hstop]
    exact nofun
  have hlife := (Builder.isLife_calls_moves hprompt pinging {} 9 violated hcalm).1
  exact ⟨hprompt, hstop, by decide +kernel, hlife⟩

end FrameBridge
