import FrameBridge.Proofs.Counters.Speech
import FrameBridge.Proofs.Counters.Tally
import FrameBridge.Proofs.Entry.Settled
import FrameBridge.Proofs.Entry.Stance
import FrameBridge.Proofs.Law.Word

/-!
# Batches of events

Input is decoded in one entry, and settled after each event that it stands for.  An entry of its own
for each event does the same: what is settled leaves nothing in the scope, so that it makes no
difference whether the scope is left and entered again.

* `Turn.each_handleEvent` says so for any events, whatever comes of them.
* `Turn.frames_deliver` and `Turn.frames_each` follow the frames that a connection is told of.
* `Turn.decode_eq_handleEvents` puts both together.
-/

namespace FrameBridge

/-- The events of a batch from which on the connection is there: all of them if it exists already, or
else those after the first settings. -/
def Event.heard (isEstablished : Bool) (es : List Event) : List Event :=
  if isEstablished then es else (es.dropWhile (·.settings?.isNone)).tail

/-- The frame that the connection is told of by a call. -/
def Call.frame? : Call → Option Frame
  | .told (.frame f) => some f
  | .told _ | .created | .hooked .. => none

namespace Turn

variable {κ σ δ : Type} {t : Turn κ σ δ} {loop : LoopId}

/-! ### Scopes -/

/-- Where nothing waits inline, a loop that was left is entered again as it was. -/
theorem entered_leaving (before : Option Scope) (hhome : t.bridge.id = loop)
    (hscope : t.hub.scope = some ⟨loop, []⟩) : (t.leaving loop before).entered = t := by
  have hcurrent : t.hub.isCurrent t.bridge.id = true := by
    simp [Hub.isCurrent, hscope, hhome]
  cases hb : before.any (·.loop == loop) with
  | true =>
      have hleft : t.leaving loop before = t := by rw [leaving, Hub.leave_of_isCurrent hb]
      rw [hleft, entered, Hub.enter, if_pos hcurrent]
  | false =>
      have hleft : t.leaving loop before = { t with hub := { t.hub with scope := before } } := by
        rw [leaving, Hub.leave_of_idle hb hscope]
      have hfree : Hub.isCurrent { t.hub with scope := before } t.bridge.id = false := by
        rw [hhome]
        exact hb
      have hhub : { t.hub with scope := some { loop := t.bridge.id } } = t.hub := by
        rw [hhome, ← hscope]
      rw [hleft]
      simp only [entered, Hub.enter, hfree, Bool.false_eq_true, if_false, hhub]

/-- A loop that was left for some scope and entered again is left for that scope again. -/
theorem leaving_again (before : Option Scope) (hscope : t.hub.scope = some ⟨loop, []⟩)
    (t' : Turn κ σ δ) :
    t'.leaving loop (t.leaving loop before).hub.scope = t'.leaving loop before := by
  rw [leaving_of_scope before hscope]
  cases hb : before.any (·.loop == loop) with
  | true =>
      have hcurrent : t.hub.scope.any (·.loop == loop) = true := by simp [hscope]
      simp only [if_true, leaving, Hub.leave_of_isCurrent hb, Hub.leave_of_isCurrent hcurrent]
  | false => rfl

theorem isRunning_entered (t : Turn κ σ δ) : t.entered.outlet.IsRunning t.bridge.id := by
  obtain ⟨waiting, hscope⟩ := Hub.scope_of_isCurrent t.isCurrent_entered
  exact ⟨rfl, waiting, hscope⟩

/-! ### What was told -/

/-- The frames that the connection was told of so far, oldest first. -/
def toldFrames (t : Turn κ σ δ) : List Frame := t.calls.filterMap Call.frame?

theorem Says.toldFrames_eq {r : Run (Turn κ σ δ)} (h : Says (·.frame? = none) t r) :
    r.state.toldFrames = t.toldFrames := by
  obtain ⟨new, hnew, hnone, -⟩ := h.made
  have hnil : new.filterMap Call.frame? = [] := List.filterMap_eq_nil_iff.mpr hnone
  rw [toldFrames, hnew, List.filterMap_append, hnil, List.append_nil]
  rfl

/-- A bridge that is not closed and hands frames on as they are. -/
structure IsDirect (t : Turn κ σ δ) : Prop where
  coherent : t.bridge.Coherent
  isOpen : t.bridge.channel.isOpen = true
  decoders : t.bridge.decoders = none
  notes : t.outlet.Notes (·.frame? = none)

namespace IsDirect

theorem ne_closed (h : t.IsDirect) : t.bridge.state ≠ .closed :=
  fun hclosed => nomatch h.isOpen.symm.trans (h.coherent.closed hclosed)

theorem listener_eq_none (h : t.IsDirect) {session : Session σ δ}
    (hsession : t.bridge.session = some session) : session.listener = none := by
  have hdecoding := h.coherent.decoding (by simp [Bridge.isEstablished, hsession])
  rw [h.decoders] at hdecoding
  simpa [Bridge.isDecoding, hsession] using hdecoding

end IsDirect

variable [Codec κ]

/-- The turn after the codec took input in, if it asks for nothing. -/
theorem decoded_of_quiet {input : Bytes} (hquiet : (Codec.decode t.bridge.codec input).requests = []) :
    t.decoded input =
      { t with bridge := { t.bridge with codec := (Codec.decode t.bridge.codec input).codec } } := by
  rw [decoded, hquiet]
  rfl

variable [Connection σ]

/-- An error is handled without a frame being told. -/
theorem says_onError (e : ProtocolError) (t : Turn κ σ δ) :
    Says (·.frame? = none) t (t.onError e) := by
  have hannounce : Says (·.frame? = none) t (t.announce e) := by
    cases e with
    | stream s c m => exact (says_handOver (p := (·.frame? = none)) rfl (t.notice _)).of_calls rfl
    | connection c m =>
        exact (says_handOver (p := (·.frame? = none)) rfl (t.notice _)).of_calls rfl
  exact hannounce.andThen fun t' =>
    .done (calls_of_view ((view_react t'.catchUp e).trans (view_catchUp t')))

theorem says_onException (e : BridgeError) (t : Turn κ σ δ) :
    Says (·.frame? = none) t (t.onException e) := by
  have hreport := calls_of_view (view_reportException t e)
  unfold onException
  split
  · exact .done rfl
  · exact ((says_onError _ _).of_calls hreport).andThen fun t' =>
      .done (calls_of_view (view_close t'))

variable [Decoder δ]

/-! ### Events in entries of their own -/

/-- Routes one event and settles what comes of it. -/
def deliver (rounds : Nat) (t : Turn κ σ δ) (e : Event) : Run (Turn κ σ δ) :=
  (t.route e).andThen (settle rounds)

theorem isSettled_deliver {rounds : Nat} {e : Event} (h : (t.deliver rounds e).stop = none) :
    (t.deliver rounds e).state.isSettled = true := by
  obtain ⟨hrouted, hsettled⟩ := Run.stop_andThen.mp h
  rw [deliver, Run.state_andThen hrouted]
  exact isSettled_settle rounds hsettled

theorem isRunning_deliver (rounds : Nat) (e : Event) (h : t.outlet.IsRunning loop) :
    (t.deliver rounds e).state.outlet.IsRunning loop := by
  have hdeeds : Chain t (t.deliver rounds e) :=
    (Chain.last (.route e)).andThen fun _ => chain_settle rounds _
  exact hdeeds.keeps (P := fun t => t.outlet.IsRunning loop)
    (fun hdeed hrun => (Outlet.steady_isRunning loop).deed hdeed hrun) h

theorem scope_deliver {rounds : Nat} {e : Event} (hrun : t.outlet.IsRunning loop)
    (h : (t.deliver rounds e).stop = none) :
    (t.deliver rounds e).state.hub.scope = some ⟨loop, []⟩ :=
  scope_of_isSettled (isSettled_deliver h) (isRunning_deliver rounds e hrun)

/-- Events in entries of their own are delivered as in one scope, however this ends. -/
theorem each_handleEvent (rounds : Nat) (es : List Event) (t : Turn κ σ δ) :
    Run.each (handleEvent rounds) es t =
      (Run.each (deliver rounds) es t.entered).map fun t' =>
        t'.leaving t.bridge.id t.hub.scope := by
  induction es generalizing t with
  | nil =>
      have hsame := Hub.leave_enter (h := t.hub) t.bridge.id (f := id) fun _ => rfl
      exact congrArg (fun hub => Run.done { t with hub }) hsame.symm
  | cons e es ih =>
      have hfirst : t.handleEvent rounds e =
          (t.entered.deliver rounds e).map fun t' => t'.leaving t.bridge.id t.hub.scope := rfl
      rw [Run.each, Run.each, hfirst]
      by_cases hend : (t.entered.deliver rounds e).stop = none
      · have hrun := t.isRunning_entered
        have hscope := scope_deliver hrun hend
        have hhome : (t.entered.deliver rounds e).state.bridge.id = t.bridge.id :=
          (isRunning_deliver rounds e hrun).1
        rw [Run.andThen_of_done (by exact hend), Run.andThen_of_done hend, Run.state_map, ih,
          entered_leaving _ hhome hscope]
        -- The next entry leaves its scope for the same one as this entry.
        have hagain := leaving_again (t := (t.entered.deliver rounds e).state) t.hub.scope hscope
        have hhome' : ((t.entered.deliver rounds e).state.leaving t.bridge.id
            t.hub.scope).bridge.id = t.bridge.id := hhome
        simp only [hhome', hagain]
      · rw [Run.andThen_of_stopped (by exact hend), Run.andThen_of_stopped hend]

/-- What is settled stays settled if no event is delivered, and is settled after the last one. -/
theorem isSettled_each {rounds : Nat} {es : List Event} (h : t.isSettled = true ∨ es ≠ [])
    (hend : (Run.each (deliver rounds) es t).stop = none) :
    (Run.each (deliver rounds) es t).state.isSettled = true := by
  induction es generalizing t with
  | nil => exact h.resolve_right fun hne => hne rfl
  | cons e es ih =>
      obtain ⟨hfirst, hrest⟩ := Run.stop_andThen.mp hend
      rw [Run.each, Run.state_andThen hfirst]
      exact ih (.inl (isSettled_deliver hfirst)) hrest

/-! ### Frames of a batch -/

/-- No frame is told because of an event that brings none. -/
theorem says_route {e : Event} (he : e.frame? = none) (t : Turn κ σ δ) :
    Says (·.frame? = none) t (t.route e) := by
  unfold route
  split
  · exact .done rfl
  · cases e with
    | frame f => cases he
    | stream change s =>
        simp only [onStreamChange]
        split
        · exact (says_tell (p := (·.frame? = none)) rfl _).of_calls rfl
        all_goals exact .done rfl
    | goAway | writabilityChanged =>
        simp only [tellOr]
        split
        · exact (says_tell (p := (·.frame? = none)) rfl _).of_calls rfl
        · exact .done rfl
    | error e => exact (says_onError e _).of_calls rfl

theorem goesOn_route {e : Event} (he : e.frame? = none) (t : Turn κ σ δ) :
    t.bridge.GoesOn (t.route e).state.bridge := by
  unfold route
  split
  · exact .refl _
  · cases e with
    | frame f => cases he
    | stream change s => exact goesOn_onStreamChange change s (.refl _)
    | goAway | writabilityChanged => exact goesOn_tellOr _ _ (.refl _)
    | error e => exact goesOn_onError e (.refl _)

/-- The connection is told of no more frames, and is neither created nor gone. -/
structure SameAudience (t t' : Turn κ σ δ) : Prop where
  frames : t'.toldFrames = t.toldFrames
  goesOn : t.bridge.GoesOn t'.bridge

/-- Settling tells no frames, for a codec whose notifications bring none. -/
theorem wordRule_sameAudience (t : Turn κ σ δ) :
    WordRule (·.frame? = none) (SameAudience t) where
  catchUp {t'} h := by
    refine ⟨?_, h.goesOn.writes (writes_catchUp t')⟩
    rw [toldFrames, calls_of_view (view_catchUp t')]
    exact h.frames
  onException e t' h :=
    ⟨(says_onException e t').toldFrames_eq.trans h.frames,
      h.goesOn.trans (goesOn_onException e (.refl _))⟩
  route {e t'} he h :=
    ⟨(says_route he t').toldFrames_eq.trans h.frames, h.goesOn.trans (goesOn_route he t')⟩
  channel faults notifications t' h :=
    ⟨h.frames, h.goesOn.trans ⟨⟨rfl, id, fun _ => id⟩, rfl, rfl, rfl, .stay⟩⟩

namespace IsDirect

variable {rounds : Nat} {e : Event}

/-- A bridge that hands frames on goes on doing so. -/
theorem deliver (hword : Codec.Leaves κ (·.frame? = none)) (h : t.IsDirect)
    (hend : (t.deliver rounds e).stop = none) : (t.deliver rounds e).state.IsDirect := by
  have hdeeds : Chain t (t.deliver rounds e) :=
    (Chain.last (.route e)).andThen fun _ => chain_settle rounds _
  have E : EventRule (fun _ => True) fun t : Turn κ σ δ => t.outlet.channel.isOpen = true :=
    (Outlet.law_isOpen (· = true)).eventRule fun _ h => h
  have R : Rule (fun _ => True) fun t : Turn κ σ δ => t.outlet.channel.isOpen = true :=
    { E with channel := fun _ _ _ h => h }
  have hopen : (t.deliver rounds e).state.outlet.channel.isOpen = true :=
    Run.holds_andThen (P := fun t : Turn κ σ δ => t.outlet.channel.isOpen = true)
      (R.route e h.isOpen) fun _ h => R.settle rounds h
  exact
    { coherent := hdeeds.keeps_of_done (P := fun t => t.bridge.Coherent)
        (fun hdeed hdone ht => ht.change hdone hdeed.change) hend h.coherent
      isOpen := hopen
      decoders := hdeeds.course.later.decoders.trans h.decoders
      notes := hdeeds.course.notes hword h.notes }

/-- A connection that exists is told of a frame once; settings that find none create it. -/
theorem route_frame (h : t.IsDirect) (f : Frame) (hend : (t.route (.frame f)).stop = none) :
    (t.route (.frame f)).state.toldFrames =
        t.toldFrames ++ (if t.bridge.isEstablished then [f] else []) ∧
      (t.route (.frame f)).state.bridge.isEstablished =
        (t.bridge.isEstablished || (Event.settings? (.frame f)).isSome) := by
  let arrived : Turn κ σ δ :=
    Turn.meter { t with hub := t.hub.arrive t.bridge.id (.frame f) } Metrics.countInbound
  have hroute : t.route (.frame f) = arrived.onFrame f := by rw [route, if_neg h.ne_closed]
  rw [hroute] at hend ⊢
  cases hsession : t.bridge.session with
  | some session =>
      have hestablished : t.bridge.isEstablished = true := by simp [Bridge.isEstablished, hsession]
      have htell : arrived.onFrame f = arrived.tell (.frame f) := by
        have hsession' : arrived.bridge.session = some session := hsession
        simp only [onFrame, hsession', h.listener_eq_none hsession]
      rw [htell] at hend ⊢
      have hview := (shows_tell (.frame f) arrived).1 hend
      have hcalls : (arrived.tell (.frame f)).state.calls = t.calls ++ [.told (.frame f)] := by
        have hcalls := congrArg (fun v : View => v.story.calls) hview
        have hestablished' : arrived.view.isEstablished = true := hestablished
        rw [View.told, if_pos hestablished'] at hcalls
        exact hcalls
      have hkept := Bridge.isEstablished_of_route (goesOn_tell (.frame f) (.refl arrived.bridge)).route
      rw [hestablished, Bool.true_or, if_pos rfl, toldFrames, hcalls, List.filterMap_append]
      exact ⟨rfl, hkept.trans hestablished⟩
  | none =>
      have habsent : t.bridge.isEstablished = false := by simp [Bridge.isEstablished, hsession]
      have hearly : arrived.onFrame f = arrived.onEarlyFrame f := by
        have hsession' : arrived.bridge.session = none := hsession
        simp only [onFrame, hsession']
      have hheld : t.bridge.blueprint.isSome = true := by rw [h.coherent.held, habsent]; rfl
      obtain ⟨blueprint, hblueprint⟩ := Option.isSome_iff_exists.mp hheld
      have hblueprint' : arrived.bridge.blueprint = some blueprint := hblueprint
      rw [habsent, Bool.false_or, if_neg Bool.false_ne_true, List.append_nil]
      rw [hearly] at hend ⊢
      -- Any frame but settings is an exception here.
      have refused {x : BridgeError} :
          (arrived.onException x).state.toldFrames = t.toldFrames ∧
            (arrived.onException x).state.bridge.isEstablished = false := by
        have hkept := Bridge.isEstablished_of_route (goesOn_onException x (.refl arrived.bridge)).route
        exact ⟨(says_onException x arrived).toldFrames_eq, hkept.trans habsent⟩
      cases f with
      | settings s =>
          simp only [onEarlyFrame, hblueprint'] at hend ⊢
          have hview := (shows_establish blueprint s arrived).1 hend
          have hcalls := congrArg (fun v : View => v.story.calls) hview
          have hborn := congrArg View.isEstablished hview
          refine ⟨?_, hborn⟩
          have hnone : (birth arrived.view.hooks s).filterMap Call.frame? = [] := by
            simp [birth, Hooks.callsOf, Call.frame?, List.filterMap_eq_nil_iff]
          have hcalls : (arrived.establish blueprint s).state.calls =
              t.calls ++ birth arrived.view.hooks s := hcalls
          rw [toldFrames, hcalls, List.filterMap_append, hnone, List.append_nil]
          rfl
      | headers _ _ prio =>
          simp only [onEarlyFrame]
          split
          · exact refused
          · exact refused
      | _ => exact refused

/-- An event that brings a frame tells it to the connection once, whatever comes of it; settings that
find no connection create it; and any other event tells no frame. -/
theorem frames_deliver (hword : Codec.Leaves κ (·.frame? = none)) (h : t.IsDirect)
    (hend : (t.deliver rounds e).stop = none) :
    (t.deliver rounds e).state.toldFrames =
        t.toldFrames ++ (if t.bridge.isEstablished then e.frame?.toList else []) ∧
      (t.deliver rounds e).state.bridge.isEstablished =
        (t.bridge.isEstablished || e.settings?.isSome) := by
  obtain ⟨hrouted, -⟩ := Run.stop_andThen.mp hend
  have E : EventRule (fun _ => True) fun t : Turn κ σ δ => t.outlet.Notes (·.frame? = none) :=
    eventRule_notes hword
  have hsettled : SameAudience (t.route e).state ((t.route e).state.settle rounds).state :=
    (wordRule_sameAudience (t.route e).state).settle hword rounds (E.route e h.notes)
      ⟨rfl, .refl _⟩
  have hestablished := Bridge.isEstablished_of_route hsettled.goesOn.route
  rw [Turn.deliver, Run.state_andThen hrouted, hsettled.frames, hestablished]
  cases he : e.frame? with
  | some f =>
      cases e with
      | frame f' =>
          cases he
          exact h.route_frame f hrouted
      | stream | goAway | writabilityChanged | error => cases he
  | none =>
      have hnone : e.settings? = none := by
        cases e with
        | frame f => cases he
        | stream | goAway | writabilityChanged | error => rfl
      have hkept := Bridge.isEstablished_of_route (goesOn_route he t).route
      rw [hnone, (says_route he t).toldFrames_eq, hkept]
      simp

/-- A connection is told of the frames of a batch once each and in order, from the event after the one
that creates it. -/
theorem frames_each (hword : Codec.Leaves κ (·.frame? = none)) {es : List Event} (h : t.IsDirect)
    (hend : (Run.each (Turn.deliver rounds) es t).stop = none) :
    (Run.each (Turn.deliver rounds) es t).state.toldFrames =
      t.toldFrames ++ (Event.heard t.bridge.isEstablished es).filterMap Event.frame? := by
  induction es generalizing t with
  | nil =>
      have hnil : Event.heard t.bridge.isEstablished [] = [] := by simp [Event.heard]
      rw [hnil]
      exact (List.append_nil _).symm
  | cons e es ih =>
      obtain ⟨hfirst, hrest⟩ := Run.stop_andThen.mp hend
      obtain ⟨hframes, hestablished⟩ := h.frames_deliver hword hfirst
      rw [Run.each, Run.state_andThen hfirst, ih (h.deliver hword hfirst) hrest, hframes,
        hestablished]
      cases t.bridge.isEstablished with
      | true =>
          cases hframe : e.frame? <;> simp [Event.heard, hframe]
      | false =>
          cases hsettings : e.settings? <;> simp [Event.heard, hsettings]

end IsDirect

/-- Where the codec asks for nothing while it decodes, decoding input comes to the same as taking the
events and handling each in an entry of its own: the same state, the same end, and the same input
left over.  This holds of a bridge whose entries have all returned, and of any other as long as there
is an event.

Between two events nothing is left of the first: no fault, no notification and no command in the
scope.

If besides the bridge is not closed, decodes no bodies and its codec notifies no frames, its connection
is told of every frame that comes after the first settings, once each and in order. -/
theorem decode_eq_handleEvents (rounds : Nat) {input : Bytes}
    (hquiet : (Codec.decode t.bridge.codec input).requests = [])
    (hway : (t.hub.isCurrent t.bridge.id = false ∧
        ∃ (b : Builder κ σ δ) (hub : Hub), Proceeds (b.build hub) t) ∨
      (Codec.decode t.bridge.codec input).result.events ≠ []) :
    let step := Codec.decode t.bridge.codec input
    let taken : Turn κ σ δ := { t with bridge := { t.bridge with codec := step.codec } }
    t.decode rounds input =
      (step.result.rest, Run.each (handleEvent rounds) step.result.events taken) ∧
    (∀ before d e after, step.result.events = before ++ d :: e :: after →
      let earlier := Run.each (deliver rounds) (before ++ [d]) taken.entered
      earlier.stop = none →
      earlier.state.bridge.channel.faults = [] ∧
      earlier.state.bridge.channel.notifications = [] ∧
      earlier.state.hub.scope = some ⟨t.bridge.id, []⟩ ∧
      (t.decode rounds input).2 =
        ((earlier.state.deliver rounds e).andThen (Run.each (deliver rounds) after)).map
          (·.leaving t.bridge.id t.hub.scope)) ∧
    ((∃ (b : Builder κ σ δ) (hub : Hub), Proceeds (b.build hub) t) →
      Codec.Leaves κ (·.frame? = none) → t.bridge.decoders = none → t.bridge.state ≠ .closed →
      (t.decode rounds input).2.stop = none →
      (t.decode rounds input).2.state.toldFrames = t.toldFrames ++
        (Event.heard t.bridge.isEstablished step.result.events).filterMap Event.frame?) := by
  intro step taken
  have hstart : t.entered.decoded input = taken.entered :=
    decoded_of_quiet (t := t.entered) hquiet
  -- Nothing is left to settle when the last event has been.
  have hbatch : (t.decode rounds input).2 =
      (Run.each (deliver rounds) step.result.events taken.entered).map
        (·.leaving t.bridge.id t.hub.scope) := by
    have hdecode : (t.decode rounds input).2 =
        ((Run.each (deliver rounds) step.result.events (t.entered.decoded input)).andThen
          (settle rounds)).map (·.leaving t.bridge.id t.hub.scope) := rfl
    have hready : taken.entered.isSettled = true ∨ step.result.events ≠ [] := by
      refine hway.imp_left ?_
      rintro ⟨hfree, b, hub, hrun⟩
      obtain ⟨hfaults, hnotifications⟩ := isClear_of_proceeds hrun
      simp [isSettled, taken, entered, Hub.enter, hfree, hfaults, hnotifications]
    rw [hdecode, hstart]
    by_cases hend : (Run.each (deliver rounds) step.result.events taken.entered).stop = none
    · rw [Run.andThen_of_done hend, settle_of_isSettled (isSettled_each hready hend)]
      cases hrun : Run.each (deliver rounds) step.result.events taken.entered with
      | mk state stop =>
          rw [hrun] at hend
          cases hend
          rfl
    · rw [Run.andThen_of_stopped hend]
  have hrest : (t.decode rounds input).1 = step.result.rest := rfl
  refine ⟨?_, ?_, ?_⟩
  · rw [← hrest, each_handleEvent, Prod.ext_iff]
    exact ⟨rfl, hbatch⟩
  · intro before d e after hevents earlier hend
    have hsplit : Run.each (deliver rounds) step.result.events taken.entered =
        earlier.andThen (Run.each (deliver rounds) (e :: after)) := by
      rw [hevents, ← Run.each_append, List.append_assoc, List.singleton_append]
    have hsettled := isSettled_each (.inr (by simp)) hend
    obtain ⟨hfaults, hnotifications⟩ := isClear_of_isSettled hsettled
    have hrunning : earlier.state.outlet.IsRunning t.bridge.id :=
      Run.holds_each (P := fun t' : Turn κ σ δ => t'.outlet.IsRunning t.bridge.id)
        (fun _ e h => isRunning_deliver rounds e h) _ taken.isRunning_entered
    refine ⟨hfaults, hnotifications, scope_of_isSettled hsettled hrunning, ?_⟩
    rw [hbatch, hsplit, Run.andThen_of_done hend]
    rfl
  · rintro ⟨b, hub, hrun⟩ hword hdecoders hup hend
    have hcoherent := hrun.coherent (b.coherent_build hub)
    have hopen : t.bridge.channel.isOpen = true := by
      by_contra hshut
      exact hup (hcoherent.shut (Bool.eq_false_iff.mpr hshut))
    have hdirect : taken.entered.IsDirect :=
      { coherent := ⟨⟨hcoherent.closing, hcoherent.closed, hcoherent.emptied⟩, hcoherent.held,
          hcoherent.known, hcoherent.created, hcoherent.shut, hcoherent.decoding⟩
        isOpen := hopen
        decoders := hdecoders
        notes := by
          have hnone : t.bridge.channel.notifications = [] := (isClear_of_proceeds hrun).2
          intro e he
          exact absurd (hnone ▸ he) List.not_mem_nil }
    rw [hbatch] at hend ⊢
    have hinside : (Run.each (deliver rounds) step.result.events taken.entered).stop = none := hend
    have hframes := hdirect.frames_each hword hinside
    have hleave (t' : Turn κ σ δ) : (t'.leaving t.bridge.id t.hub.scope).toldFrames =
        t'.toldFrames := congrArg (List.filterMap Call.frame?) (calls_of_view (view_leave t' _ _))
    have hentered : taken.entered.toldFrames = t.toldFrames :=
      congrArg (List.filterMap Call.frame?) (calls_of_view (view_enter taken t.bridge.id))
    rw [Run.state_map, hleave, hframes, hentered]
    rfl

end Turn

/-- A codec of lines notifies no frames. -/
theorem LineCodec.leaves_no_frame : Codec.Leaves LineCodec (·.frame? = none) :=
  LineCodec.leaves_word.mono fun _ he => by cases he <;> rfl

/-- A bridge whose connection resets the stream of the first frame that it is told of. -/
def rejecting : Builder LineCodec Script ToyDecoder where
  codec := {}
  blueprint := { parts := [⟨.frame, [.write (.reset .current .protocolError)], 1⟩] }

def rejectingOpen : Turn LineCodec Script ToyDecoder := ((rejecting.build {}).moves 9 opening).state

/-- Headers that are to be reset, a ping, and the start of a line. -/
def rejectedInput : Bytes := Bytes.ofText "HEADERS 1\nPING\nDA"

/-- The stream that the connection resets while it is told of the headers is over for it before it is
told of the ping. -/
theorem decode_eq_handleEvents_rejecting :
    let step := Codec.decode rejectingOpen.bridge.codec rejectedInput
    step.requests = [] ∧ step.result.events.length = 2 ∧
      rejectingOpen.hub.isCurrent rejectingOpen.bridge.id = false ∧
      rejectingOpen.decode 9 rejectedInput =
        (Bytes.ofText "DA", Run.each (Turn.handleEvent 9) step.result.events
          { rejectingOpen with bridge := { rejectingOpen.bridge with codec := step.codec } }) ∧
      (rejectingOpen.decode 9 rejectedInput).2.stop = none ∧
      (rejectingOpen.decode 9 rejectedInput).2.state.toldFrames =
        rejectingOpen.toldFrames ++ step.result.events.filterMap Event.frame? ∧
      (rejectingOpen.decode 9 rejectedInput).2.state.calls.map (fun c => c matches .told (.streamClosed _)) =
        [false, false, false, true, false] := by
  intro step
  have hopened : ((rejecting.build {}).moves 9 opening).stop = none := by decide +kernel
  have hrun : Turn.Proceeds (rejecting.build {}) rejectingOpen :=
    Turn.proceeds_moves 9 opening hopened
  have hfree : rejectingOpen.hub.isCurrent rejectingOpen.bridge.id = false := by decide +kernel
  have hevents : step.result.events.length = 2 := by decide +kernel
  have hup : rejectingOpen.bridge.state ≠ .closed := by decide +kernel
  have hdecoders : rejectingOpen.bridge.decoders.isNone = true := by decide +kernel
  have hend : (rejectingOpen.decode 9 rejectedInput).2.stop = none := by decide +kernel
  have hleft : step.result.rest = Bytes.ofText "DA" := by decide +kernel
  have hestablished : rejectingOpen.bridge.isEstablished = true := by decide +kernel
  have hquiet : step.requests = [] := LineCodec.requests_decode _ _
  obtain ⟨hsame, -, hframes⟩ := Turn.decode_eq_handleEvents (t := rejectingOpen) 9 hquiet
    (.inl ⟨hfree, rejecting, {}, hrun⟩)
  have hframes := hframes ⟨rejecting, {}, hrun⟩ LineCodec.leaves_no_frame
    (Option.isNone_iff_eq_none.mp hdecoders) hup hend
  rw [hestablished] at hframes
  refine ⟨hquiet, hevents, hfree, hleft ▸ hsame, hend, hframes, ?_⟩
  decide +kernel

end FrameBridge
