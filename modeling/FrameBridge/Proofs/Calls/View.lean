import FrameBridge.Proofs.Law.Turn

/-!
# Views of a bridge

What the application can tell of a bridge: whether its connection was created, whether
the bridge is closed, which calls the bridge has made, and which settings reached it.

Most of what a bridge does cannot be told from outside, because it makes no call.  The
lemmas here say so for everything up to a whole piece of application code, so that what
remains to be looked at are the few functions that call the application.
-/

namespace FrameBridge

/-- A call from a bridge to its application. -/
inductive Call where
  /-- The factory creates the connection. -/
  | created
  | told (callback : Callback)
  | hooked (kind : HookKind) (index : Nat)
deriving DecidableEq, Repr

/-- The call that an entry of the journal reports. -/
def Entry.call? : Entry → Option Call
  | .created => some .created
  | .callback c => some (.told c)
  | .hook kind index => some (.hooked kind index)
  | .codec _ | .accepted _ | .flushed | .handedOver | .asked _ | .resolved .. | .answered _
  | .innerDone => none

/-- The settings that an event brings. -/
def Event.settings? : Event → Option Settings
  | .frame (.settings s) => some s
  | _ => none

/-- What there is to tell of a bridge, oldest first. -/
structure Story where
  calls : List Call := []
  settings : List Settings := []

/-- The story goes on with calls. -/
def Story.andCalls (s : Story) (calls : List Call) : Story := { s with calls := s.calls ++ calls }

/-- The story goes on with settings that reached the bridge. -/
def Story.andSettings (s : Story) (settings : List Settings) : Story :=
  { s with settings := s.settings ++ settings }

@[simp] theorem Story.andCalls_andCalls (s : Story) (xs ys : List Call) :
    (s.andCalls xs).andCalls ys = s.andCalls (xs ++ ys) := by
  simp [andCalls]

@[simp] theorem Story.andCalls_nil (s : Story) : s.andCalls [] = s := by
  simp [andCalls]

@[simp] theorem Story.andSettings_nil (s : Story) : s.andSettings [] = s := by
  simp [andSettings]

namespace Hub

/-- The calls of a bridge so far, oldest first. -/
def calls (h : Hub) (loop : LoopId) : List Call :=
  h.journal.reverse.filterMap fun r => if r.loop = loop then r.entry.call? else none

/-- The settings that reached a bridge so far, oldest first. -/
def settingsAt (h : Hub) (loop : LoopId) : List Settings :=
  h.arrivals.reverse.filterMap fun a => if a.loop = loop then a.event.settings? else none

/-- The story of a bridge so far. -/
def story (h : Hub) (loop : LoopId) : Story := ⟨h.calls loop, h.settingsAt loop⟩

/-- An entry of a bridge's own adds the call that it reports to the story. -/
theorem story_record (h : Hub) (loop : LoopId) (e : Entry) :
    (h.record loop e).story loop = (h.story loop).andCalls e.call?.toList := by
  cases hcall : e.call? <;>
    simp [story, calls, settingsAt, record, Story.andCalls, hcall]

theorem story_record_of_none {e : Entry} (he : e.call? = none) (h : Hub) (home loop : LoopId) :
    (h.record home e).story loop = h.story loop := by
  simp [story, calls, settingsAt, record, he]

/-- A delivered event adds the settings that it brings to the story. -/
theorem story_arrive (h : Hub) (loop : LoopId) (e : Event) :
    (h.arrive loop e).story loop = (h.story loop).andSettings e.settings?.toList := by
  cases hsettings : e.settings? <;>
    simp [story, calls, settingsAt, arrive, Story.andSettings, hsettings]

theorem story_log (h : Hub) (r : Resolution) (loop : LoopId) :
    (h.log r).story loop = h.story loop := by
  unfold log
  split
  · rfl
  · exact story_record_of_none rfl h _ loop

/-- Handles add nothing to the story of a bridge, and neither do the callbacks of writes. -/
theorem law_story (loop : LoopId) (p : Story → Prop) :
    Law (fun _ => True) (Regardless fun h => p (h.story loop)) where
  good_of_faithful _ := trivial
  void h := h
  log {r _ h} _ hp := (congrArg p (story_log h r loop)).mpr hp
  forget _ _ _ h := h
  answered home _ _ h hp := (congrArg p (story_record_of_none rfl h home loop)).mpr hp
  issue _ _ _ _ _ _ h := h
  reserve _ _ _ h := h
  inline _ _ h := h
  queue _ _ h := h

end Hub

namespace Outlet

variable {κ : Type}

/-- The bridge of an outlet, and its story. -/
def story (o : Outlet κ) : LoopId × Story := (o.home, o.hub.story o.home)

/-- What a codec asks of the channel adds nothing to the story. -/
theorem story_carryOut (o : Outlet κ) (r : ChannelRequest) : (o.carryOut r).story = o.story := by
  cases r with
  | write bytes p =>
      have L := Hub.law_story o.home fun s => (o.home, s) = o.story
      have hended := Channel.failed_of_mem_write o.channel ⟨bytes, p⟩
      have hresolved {h : Hub} (hstory : (o.home, h.story o.home) = o.story) :
          (o.home, (h.resolveAll (o.channel.write ⟨bytes, p⟩).2).story o.home) = o.story := by
        exact L.resolveAll hended (.of (_ ++ []) hstory)
      unfold carryOut accept
      simp only [story]
      apply hresolved
      split
      · exact congrArg (Prod.mk o.home) (Hub.story_record_of_none rfl _ _ _)
      · rfl
  | notify e | raise e => rfl
  | flush => exact congrArg (Prod.mk o.home) (Hub.story_record_of_none rfl _ _ _)
  | close =>
      unfold carryOut close
      simp only [story]
      split <;> rfl

/-- A call to the codec adds nothing to the story. -/
theorem story_call {α : Type} (o : Outlet κ) (describe : α → CodecCall) (s : CodecStep κ α) :
    (o.call describe s).2.story = o.story := by
  refine holds_carryOut (Q := fun o' => o'.story = o.story)
    (fun o' r h => (story_carryOut o' r).trans h) _ ?_
  exact congrArg (Prod.mk o.home) (Hub.story_record_of_none rfl _ _ _)

theorem story_orRaise {α : Type} (o : Outlet κ) (describe : Except ProtocolError α → CodecCall)
    (s : CodecStep κ (Except ProtocolError α)) :
    (orRaise (o.call describe s)).story = o.story := by
  have hcall := story_call o describe s
  rcases hr : o.call describe s with ⟨_ | _, o'⟩
  · rw [hr] at hcall
    exact hcall
  · rw [hr] at hcall
    exact hcall

variable [Codec κ]

/-- Nothing that is written adds to the story of a bridge. -/
theorem law_story (s : LoopId × Story) :
    Law (fun _ => True) (Regardless fun o : Outlet κ => o.story = s) where
  hub o := Hub.law_story o.home fun story => (o.home, story) = s
  good_of_waiting _ _ _ := trivial
  take {ps o} h := by
    unfold Hub.takeInline
    split <;> exact h
  encode {c ps o} _ h := (story_call o _ _).trans h
  call {_ describe step _ o} _ h := (story_call o describe step).trans h
  refer _ _ _ h := h
  flush {ps o} h := (story_carryOut o .flush).trans h
  close {ps o} h := (story_carryOut o .close).trans h
  raise _ _ _ h := h

end Outlet

/-- What the application can tell of a bridge. -/
structure View where
  loop : LoopId
  hooks : Hooks
  /-- Whether the connection exists. -/
  isEstablished : Bool
  /-- Whether the factory is still to be called. -/
  isFresh : Bool
  isClosed : Bool
  story : Story

/-- The view after calls. -/
def View.andCalls (v : View) (calls : List Call) : View :=
  { v with story := v.story.andCalls calls }

/-- The view after settings reached the bridge. -/
def View.andSettings (v : View) (settings : List Settings) : View :=
  { v with story := v.story.andSettings settings }

@[simp] theorem View.andCalls_andCalls (v : View) (xs ys : List Call) :
    (v.andCalls xs).andCalls ys = v.andCalls (xs ++ ys) := by
  simp [andCalls]

@[simp] theorem View.andCalls_nil (v : View) : v.andCalls [] = v := by
  simp [andCalls]

@[simp] theorem View.andSettings_nil (v : View) : v.andSettings [] = v := by
  simp [andSettings]

@[simp] theorem View.isEstablished_andCalls (v : View) (calls : List Call) :
    (v.andCalls calls).isEstablished = v.isEstablished := rfl

namespace Turn

variable {κ σ δ : Type}

/-- The view of a bridge. -/
def view (t : Turn κ σ δ) : View where
  loop := t.bridge.id
  hooks := t.bridge.hooks
  isEstablished := t.bridge.session.isSome
  isFresh := t.bridge.blueprint.isSome
  isClosed := t.bridge.state = .closed
  story := t.hub.story t.bridge.id

theorem story_of_loop {t : Turn κ σ δ} {loop : LoopId} (h : t.view.loop = loop) :
    t.hub.story loop = t.view.story := by
  subst h
  rfl

/-- The outbound side matters to the view by the story alone. -/
theorem view_withOutlet {t : Turn κ σ δ} {o : Outlet κ} (h : o.story = t.outlet.story) :
    (t.withOutlet o).view = t.view := by
  simp only [Outlet.story, Prod.mk.injEq] at h
  obtain ⟨hhome, hstory⟩ := h
  simp only [view, withOutlet, hhome, View.mk.injEq, true_and]
  rw [hhome] at hstory
  exact ⟨rfl, hstory⟩

theorem view_withHub {t : Turn κ σ δ} {h : Hub} (hstory : h.story t.bridge.id = t.view.story) :
    Turn.view { t with hub := h } = t.view := by
  simp only [view, hstory]

@[simp] theorem view_notice (t : Turn κ σ δ) (n : Notice) : (t.notice n).view = t.view := rfl

/-- An entry of the journal adds the call that it reports to the view. -/
theorem view_record (t : Turn κ σ δ) (e : Entry) :
    (t.record e).view = t.view.andCalls e.call?.toList :=
  congrArg (fun story => { t.view with story }) (t.hub.story_record t.bridge.id e)

/-- A delivered event adds the settings that it brings to the view. -/
theorem view_arrive (t : Turn κ σ δ) (e : Event) :
    Turn.view { t with hub := t.hub.arrive t.bridge.id e } =
      t.view.andSettings e.settings?.toList :=
  congrArg (fun story => { t.view with story }) (t.hub.story_arrive t.bridge.id e)

/-- The view tells the last state of a bridge's life from the others, and no more. -/
theorem view_advance {next : Lifecycle} (hnext : next ≠ .closed) (t : Turn κ σ δ) :
    (t.advance next).view = t.view := by
  simp only [view, advance, Lifecycle.advance_eq_closed_iff hnext]

@[simp] theorem view_enter (t : Turn κ σ δ) (loop : LoopId) :
    Turn.view { t with hub := t.hub.enter loop } = t.view := by
  apply view_withHub
  unfold Hub.enter
  split <;> rfl

/-- Leaving the scope of a loop cannot be told from outside. -/
@[simp] theorem view_leave (t : Turn κ σ δ) (loop : LoopId) (before : Option Scope) :
    Turn.view { t with hub := t.hub.leave loop before } = t.view := by
  have L := Hub.law_story t.bridge.id (· = t.view.story)
  have htaken :
      Hub.story { t.hub.takeInline.2 with scope := before } t.bridge.id = t.view.story := by
    unfold Hub.takeInline
    split <;> rfl
  apply view_withHub
  unfold Hub.leave
  split
  · rfl
  · exact L.abandonCommands (.of (_ ++ []) htaken)

theorem view_resolveAll (t : Turn κ σ δ) {rs : List Resolution} (hrs : ∀ r ∈ rs, Hub.Failed r) :
    Turn.view { t with hub := t.hub.resolveAll rs } = t.view := by
  have L := Hub.law_story t.bridge.id (· = t.view.story)
  apply view_withHub
  exact L.resolveAll hrs (.of (_ ++ []) rfl)

/-- What a codec asks of the channel cannot be told from outside. -/
theorem view_carryOut (t : Turn κ σ δ) (codec : κ) (requests : List ChannelRequest) :
    (t.withOutlet (requests.foldl Outlet.carryOut { t.outlet with codec })).view = t.view := by
  apply view_withOutlet
  exact Outlet.holds_carryOut (Q := fun o => o.story = t.outlet.story)
    (fun o r h => (Outlet.story_carryOut o r).trans h) requests rfl

theorem view_call {α : Type} (t : Turn κ σ δ) (describe : α → CodecCall) (s : CodecStep κ α) :
    (t.withOutlet (t.outlet.call describe s).2).view = t.view :=
  view_withOutlet (Outlet.story_call t.outlet describe s)

@[simp] theorem view_flush (t : Turn κ σ δ) : (t.onOutlet .flush).view = t.view :=
  view_withOutlet (Outlet.story_carryOut t.outlet .flush)

@[simp] theorem view_close (t : Turn κ σ δ) : t.close.view = t.view := by
  unfold close
  rw [view_advance (by decide)]
  exact view_withOutlet (Outlet.story_carryOut t.outlet .close)

@[simp] theorem view_shut (t : Turn κ σ δ) : t.shut.view = t.view :=
  view_resolveAll (t.onChannel fun c => c.markInactive.1)
    t.bridge.channel.failed_of_mem_markInactive

variable [Codec κ]

@[simp] theorem view_catchUp (t : Turn κ σ δ) : t.catchUp.view = t.view := by
  apply view_withOutlet
  exact (Outlet.law_story t.outlet.story).catchUp (.of [] rfl)

@[simp] theorem view_write (t : Turn κ σ δ) (c : Command) :
    (t.onOutlet (·.write c)).view = t.view := by
  apply view_withOutlet
  exact (Outlet.law_story t.outlet.story).write trivial (.of [c.promise] rfl)

@[simp] theorem view_react (t : Turn κ σ δ) (e : ProtocolError) :
    (t.onOutlet (·.react e)).view = t.view := by
  apply view_withOutlet
  exact (Outlet.law_story t.outlet.story).react e (.of [] rfl)

/-- A codec that lets go of its streams cannot be told from outside. -/
@[simp] theorem view_letGo (t : Turn κ σ δ) : t.letGo.view = t.view :=
  (view_call t.catchUp _ _).trans (view_catchUp t)

@[simp] theorem view_applyUpgrade (t : Turn κ σ δ) : t.applyUpgrade.view = t.view := by
  unfold applyUpgrade
  cases t.bridge.upgrade with
  | none => rfl
  | some u =>
      cases u with
      | server s => exact view_withOutlet (Outlet.story_orRaise t.outlet _ _)
      | client => exact view_withOutlet (Outlet.story_orRaise t.outlet _ _)

/-- Application code cannot be told from outside, whatever it does. -/
@[simp] theorem view_program (hasWriter : Bool) (now : StreamId) (actions : List Action)
    (t : Turn κ σ δ) : (t.program hasWriter now actions).state.view = t.view := by
  apply view_withOutlet
  exact (Outlet.law_story t.outlet.story).program hasWriter now actions (.of [] rfl)

end Turn

end FrameBridge
