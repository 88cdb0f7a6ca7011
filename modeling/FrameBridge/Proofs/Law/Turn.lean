import FrameBridge.Proofs.Law.Outlet
import FrameBridge.Proofs.Law.Rule

/-!
# Laws of turns

A law of turns is a property that every entry of a bridge keeps, however it ends: with
everything settled, in a panic of the application, or for want of rounds.

* `Turn.Law` lists what has to be shown: a law of the outlet, and the few changes that
  are made to a bridge besides its writes, as long as its transport is up.
* `Turn.WholeLaw` lists what has to be shown besides of a property that outlasts the end.
* `Turn.PartRule` lists what has to be shown of the parts of an entry, and `Turn.VisitRule` and
  `Turn.WholeVisitRule` what has to be shown of the way into it and out of it.
* `Turn.EntryRule` lists what a rule of turns needs besides, to lead from a bridge that no loop
  runs yet to one that no loop runs any more.
* `Turn.WholeVisitRule.enterBy`, `Turn.WholeLaw.enterBy` and `Turn.Law.apply` say that this is
  enough for each entry.
-/

namespace FrameBridge

/-- The codec reacts to a violation that is referred to it by calls, and by a close if the connection
cannot go on. -/
theorem Outlet.CallLaw.react {κ : Type} [Codec κ] {good : Command → Prop}
    {Q : List Promise → Outlet κ → Prop} (L : Outlet.CallLaw good Q) (e : ProtocolError)
    {ps : List Promise} {o : Outlet κ}
    (hclose : e.stream? = none → ∀ {o}, Q ps o → Q ps o.close) (hQ : Q ps (o.refer e)) :
    Q ps (o.react e) := by
  unfold Outlet.react
  simp only
  cases hown : Codec.ownReaction (o.refer e).codec e with
  | some step => exact L.call (.ownReaction hown) hQ
  | none =>
      cases e with
      | stream s c m => exact L.flush (L.encodeVoid (c := .reset s c) rfl hQ)
      | connection c m =>
          exact hclose rfl (L.flush (L.encodeVoid (c := .goAway c _ _) rfl hQ))

theorem Outlet.Law.react {κ : Type} [Codec κ] {good : Command → Prop}
    {Q : List Promise → Outlet κ → Prop} (L : Outlet.Law good Q) (e : ProtocolError)
    {ps : List Promise} {o : Outlet κ} (hQ : Q ps o) : Q ps (o.react e) :=
  L.toCallLaw.react e (fun _ => L.close) (L.refer e hQ)

namespace Turn

variable {κ σ δ : Type} [Codec κ]

/-- What has to be shown of a property of turns and of the promises under way. -/
structure Law (good : Command → Prop) (P : List Promise → Turn κ σ δ → Prop) : Prop where
  outlet : ∀ t : Turn κ σ δ, Outlet.Law good fun ps o => P ps (t.withOutlet o)
  record : ∀ {e ps t}, e.isReport → P ps t → P ps (t.record e)
  notice : ∀ n {ps t}, P ps t → P ps (t.notice n)
  meter : ∀ f {ps t}, P ps t → P ps (t.meter f)
  arrive : ∀ e {ps} {t : Turn κ σ δ}, P ps t →
    P ps { t with hub := t.hub.arrive t.bridge.id e }
  advance : ∀ {next ps t}, next ≠ .closed → P ps t → P ps (t.advance next)
  session : ∀ s {ps} {t : Turn κ σ δ}, P ps t →
    P ps { t with bridge := { t.bridge with session := s } }
  blueprint : ∀ {ps} {t : Turn κ σ δ}, P ps t →
    P ps { t with bridge := { t.bridge with blueprint := none } }
  upgrade : ∀ {ps} {t : Turn κ σ δ}, P ps t →
    P ps { t with bridge := { t.bridge with upgrade := none } }
  channel : ∀ faults notifications {ps t}, P ps t →
    P ps (t.onChannel ({ · with faults, notifications }))
  decoded : ∀ input {ps t}, P ps t →
    P ps (t.withOutlet ((Codec.decode t.bridge.codec input).requests.foldl Outlet.carryOut
      { t.outlet with codec := (Codec.decode t.bridge.codec input).codec }))
  enterScope : ∀ {ps} {t : Turn κ σ δ}, t.hub.scope = none → P ps t →
    P ps { t with hub := t.hub.enter t.bridge.id }
  leaveScope : ∀ {ps} {t : Turn κ σ δ}, P ps t →
    P (t.hub.takeInline.1.map (·.promise) ++ ps)
      { t with hub := { t.hub.takeInline.2 with scope := none } }

/-- What has to be shown besides of a property that also outlasts the end of a bridge. -/
structure WholeLaw (good : Command → Prop) (P : List Promise → Turn κ σ δ → Prop) : Prop
    extends Law good P where
  letGo : ∀ {ps} {t : Turn κ σ δ}, P ps t →
    P ps (t.withOutlet (t.outlet.call (fun _ => .inactive) (Codec.deactivate t.bridge.codec)).2)
  markInactive : ∀ {ps} {t : Turn κ σ δ}, P ps t →
    P (t.bridge.channel.markInactive.2.map (·.promise) ++ ps)
      { t with bridge := { t.bridge with channel := t.bridge.channel.markInactive.1 } }
  closed : ∀ {ps} {t : Turn κ σ δ}, t.bridge.channel.isOpen = false → P ps t →
    P ps { t with bridge := { t.bridge with state := .closed } }

/-- Nothing that a bridge does opens a channel again. -/
theorem law_isShut :
    WholeLaw (fun _ => True)
      (Regardless fun t : Turn κ σ δ => t.bridge.channel.isOpen = false) where
  outlet _ := Outlet.law_isOpen (· = false)
  record _ h := h
  notice _ _ _ h := h
  meter _ _ _ h := h
  arrive _ _ _ h := h
  advance _ h := h
  session _ _ _ h := h
  blueprint h := h
  upgrade h := h
  channel _ _ _ _ h := h
  decoded _ _ _ h := Outlet.holds_carryOut (Q := fun o => o.channel.isOpen = false)
    (fun o r h => (Outlet.isOpen_carryOut o r).trans h) _ h
  enterScope _ h := h
  leaveScope h := h
  letGo h := Outlet.holds_carryOut (Q := fun o => o.channel.isOpen = false)
    (fun o r h => (Outlet.isOpen_carryOut o r).trans h) _ h
  markInactive _ := rfl
  closed _ h := h

/-- The channel of a closed bridge is shut. -/
theorem law_shut_of_closed :
    WholeLaw (fun _ => True) (Regardless fun t : Turn κ σ δ =>
      t.bridge.state = .closed → t.bridge.channel.isOpen = false) where
  outlet t := Outlet.law_isOpen (t.bridge.state = .closed → · = false)
  record _ h := h
  notice _ _ _ h := h
  meter _ _ _ h := h
  arrive _ _ _ h := h
  advance {_ _ t} hnext h := fun hclosed =>
    h ((Lifecycle.advance_eq_closed_iff hnext t.bridge.state).mp hclosed)
  session _ _ _ h := h
  blueprint h := h
  upgrade h := h
  channel _ _ _ _ h := h
  decoded _ _ t h := Outlet.holds_carryOut
    (Q := fun o => t.bridge.state = .closed → o.channel.isOpen = false)
    (fun o r h hclosed => (Outlet.isOpen_carryOut o r).trans (h hclosed)) _ h
  enterScope _ h := h
  leaveScope h := h
  letGo {_ t} h := Outlet.holds_carryOut
    (Q := fun o => t.bridge.state = .closed → o.channel.isOpen = false)
    (fun o r h hclosed => (Outlet.isOpen_carryOut o r).trans (h hclosed)) _ h
  markInactive _ := fun _ => rfl
  closed hopen _ := fun _ => hopen

namespace Law

variable {good : Command → Prop} {P : List Promise → Turn κ σ δ → Prop}

/-- A law of turns is a law of its hub. -/
theorem hub (L : Law good P) (t : Turn κ σ δ) : Hub.Law good fun ps h => P ps { t with hub := h } :=
  (L.outlet t).hub t.outlet

theorem resolveAll (L : Law good P) {rs : List Resolution} {ps : List Promise} {t : Turn κ σ δ}
    (hrs : ∀ r ∈ rs, Hub.Failed r) (hP : P (rs.map (·.promise) ++ ps) t) :
    P ps { t with hub := t.hub.resolveAll rs } :=
  (L.hub t).resolveAll hrs hP

theorem call (L : Law good P) {α : Type} {describe : α → CodecCall} {s : CodecStep κ α}
    {ps : List Promise} {t : Turn κ σ δ} (hs : Codec.IsAnswer t.bridge.codec describe s)
    (hP : P ps t) : P ps (t.withOutlet (t.outlet.call describe s).2) :=
  (L.outlet t).call (o := t.outlet) hs hP

/-- A law of turns is a rule, whatever promises are under way. -/
theorem rule [Connection σ] (L : Law good P) (ps : List Promise) :
    Rule (fun _ => True) (P ps) where
  obeys {t} _ := t.bridge.obeys_all
  step hasWriter now a t _ hP := (L.outlet t).step hasWriter now a hP
  catchUp {t} hP := (L.outlet t).catchUp hP
  react e t hP := (L.outlet t).react e hP
  closing {t} hP := (L.outlet t).close hP
  record := L.record
  notice n _ hP := L.notice n hP
  meter f _ hP := L.meter f hP
  arrive e _ hP := L.arrive e hP
  advance := L.advance
  session _ hP := L.session _ hP
  blueprint := L.blueprint
  channel faults notifications _ hP := L.channel faults notifications hP

/-- A law of turns holds after code that ran in the scope of the bridge's loop. -/
theorem leave (L : Law good P) (loop : LoopId) {ps : List Promise} {t : Turn κ σ δ}
    (hP : P ps t) : P ps { t with hub := t.hub.leave loop none } :=
  -- No loop ran before, so the commands left inline are dropped and not handed on.
  (L.hub _).abandonCommands (L.leaveScope hP)

theorem onLoop (L : Law good P) {ps : List Promise} {t : Turn κ σ δ}
    {body : Turn κ σ δ → Run (Turn κ σ δ)} (hscope : t.hub.scope = none)
    (hbody : P ps (body { t with hub := t.hub.enter t.bridge.id }).state) :
    P ps (t.onLoop body).state := by
  simp only [Turn.onLoop, Run.state_map, hscope]
  exact L.leave t.bridge.id hbody

end Law

variable [Connection σ]

/-- A channel that is shut is not opened by what the application does at the end. -/
theorem isOpen_sayGoodbye {t : Turn κ σ δ} (h : t.bridge.channel.isOpen = false) :
    t.sayGoodbye.state.bridge.channel.isOpen = false :=
  (law_isShut.rule []).sayGoodbye h

variable [Decoder δ]

namespace Law

variable {good : Command → Prop} {P : List Promise → Turn κ σ δ → Prop}

/-- A law of turns holds after settling, however many rounds there are. -/
theorem settle (L : Law good P) (rounds : Nat) {ps : List Promise} {t : Turn κ σ δ}
    (hP : P ps t) : P ps (t.settle rounds).state :=
  (L.rule ps).settle rounds hP

/-- A law of turns holds after an entry whose own code keeps it. -/
theorem enter (L : Law good P) (rounds : Nat) {ps : List Promise} {t : Turn κ σ δ}
    {body : Turn κ σ δ → Run (Turn κ σ δ)} (hscope : t.hub.scope = none)
    (hbody : P ps (body { t with hub := t.hub.enter t.bridge.id }).state) :
    P ps (t.enter rounds body).state :=
  L.onLoop hscope (Run.holds_andThen hbody fun _ hP => L.settle rounds hP)

theorem apply (L : Law good P) (rounds : Nat) {c : Command} {ps : List Promise} {t : Turn κ σ δ}
    (hscope : t.hub.scope = none) (hc : good c) (hP : P (c.promise :: ps) t) :
    P ps (t.apply rounds c).state :=
  L.enter rounds hscope ((L.outlet _).write hc (L.enterScope hscope hP))

end Law

/-! ### Entries -/

/-- The turn after the preface was written and an upgrade applied, and both were flushed. -/
def started (t : Turn κ σ δ) : Turn κ σ δ :=
  let t := t.onOutlet fun o => (o.call (fun _ => .preface) (Codec.activate o.codec)).2
  let t := (t.advance .prefaceSent).applyUpgrade
  (t.onOutlet .flush).notice (.bridgeActive t.bridge.id)

/-- The turn after the codec took input in. -/
def decoded (t : Turn κ σ δ) (input : Bytes) : Turn κ σ δ :=
  t.withOutlet ((Codec.decode t.bridge.codec input).requests.foldl Outlet.carryOut
    { t.outlet with codec := (Codec.decode t.bridge.codec input).codec })

/-- What has to be shown of a property of turns for entries to keep it, where it matters what each
part of an entry brings about as a whole. -/
structure PartRule (allowed : Action → Prop) (P : Turn κ σ δ → Prop) : Prop
    extends SettleRule P where
  program : ∀ {actions : List Action} {t}, (∀ a ∈ actions, allowed a) → P t →
    P (t.program true .connection actions).state
  notice : ∀ n {t}, P t → P (t.notice n)
  close : ∀ {t}, P t → P t.close
  started : ∀ {t}, P t → P t.started
  decoded : ∀ input {t}, P t → P (t.decoded input)

/-- What has to be shown besides for entries to lead from one property of a bridge that is not being
run to another one. -/
structure VisitRule (allowed : Action → Prop) (O P : Turn κ σ δ → Prop) : Prop
    extends PartRule allowed P where
  enter : ∀ {t : Turn κ σ δ}, O t → P { t with hub := t.hub.enter t.bridge.id }
  leave : ∀ {t t' : Turn κ σ δ}, O t → P t' →
    O { t' with hub := t'.hub.leave t.bridge.id t.hub.scope }
  closeOutside : ∀ {t}, O t → O t.close

/-- What has to be shown besides for the last entry. -/
structure WholeVisitRule (allowed : Action → Prop) (O P : Turn κ σ δ → Prop) : Prop
    extends VisitRule allowed O P where
  letGo : ∀ {t}, P t → P t.letGo
  tearDown : ∀ {t}, P t → P t.tearDown.state

namespace VisitRule

variable {allowed : Action → Prop} {O P : Turn κ σ δ → Prop}

/-- A rule leads around an entry whose own code keeps it. -/
theorem around (V : VisitRule allowed O P) (rounds : Nat) {t : Turn κ σ δ}
    {body : Turn κ σ δ → Run (Turn κ σ δ)} (hO : O t)
    (hbody : P (body { t with hub := t.hub.enter t.bridge.id }).state) :
    O (t.enter rounds body).state := by
  simp only [Turn.enter, Turn.onLoop, Run.state_map]
  exact V.leave hO (Run.holds_andThen hbody fun _ hP => V.settle rounds hP)

theorem activate (V : VisitRule allowed O P) (rounds : Nat) {t : Turn κ σ δ} (hO : O t) :
    O (t.activate rounds).state :=
  V.around rounds hO (V.started (V.enter hO))

theorem decode (V : VisitRule allowed O P) (rounds : Nat) (input : Bytes) {t : Turn κ σ δ}
    (hO : O t) : O (t.decode rounds input).2.state := by
  refine V.around rounds hO ?_
  apply Run.holds_each _ _ (V.decoded input (V.enter hO))
  intro t e hP
  exact Run.holds_andThen (V.route e hP) fun t hP => V.settle rounds hP

theorem write (V : VisitRule allowed O P) (rounds : Nat) {actions : List Action}
    (hactions : ∀ a ∈ actions, allowed a) {t : Turn κ σ δ} (hO : O t) :
    O (t.write rounds actions).state :=
  V.around rounds hO (V.program hactions (V.enter hO))

theorem withConnection (V : VisitRule allowed O P) (rounds : Nat) {actions : List Action}
    (hactions : ∀ a ∈ actions, allowed a) {t : Turn κ σ δ} (hO : O t) :
    O (t.withConnection rounds actions).state := by
  refine V.around rounds hO (V.program ?_ (V.enter hO))
  split
  · exact hactions
  · exact fun _ ha => absurd ha List.not_mem_nil

theorem onIdle (V : VisitRule allowed O P) (rounds : Nat) (k : IdleKind) {t : Turn κ σ δ}
    (hO : O t) : O (t.onIdle rounds k).state := by
  refine V.around rounds hO ?_
  cases k with
  | all => exact V.close (V.notice _ (V.enter hO))
  | reader | writer => exact V.notice _ (V.enter hO)

theorem exceptionCaught (V : VisitRule allowed O P) (rounds : Nat) (e : BridgeError)
    {t : Turn κ σ δ} (hO : O t) : O (t.exceptionCaught rounds e).state :=
  V.around rounds hO (V.onException e (V.enter hO))

end VisitRule

namespace WholeVisitRule

variable {allowed : Action → Prop} {O P : Turn κ σ δ → Prop}

theorem deactivate (V : WholeVisitRule allowed O P) (rounds : Nat) {t : Turn κ σ δ} (hO : O t) :
    O (t.deactivate rounds).state := by
  unfold Turn.deactivate
  split
  · exact hO
  · refine V.around rounds hO ?_
    exact Run.holds_andThen (V.settle rounds (V.letGo (V.enter hO))) fun _ hP => V.tearDown hP

/-- A rule leads around every entry of a bridge that is not being run. -/
theorem enterBy (V : WholeVisitRule allowed O P) (rounds : Nat) {e : Entrance}
    (he : ∀ a ∈ e.actions, allowed a) {t : Turn κ σ δ} (hO : O t) :
    O (t.enterBy rounds e).state := by
  cases e with
  | activate => exact V.activate rounds hO
  | deactivate => exact V.deactivate rounds hO
  | close => exact V.closeOutside hO
  | decode input => exact V.decode rounds input hO
  | event e => exact V.around rounds hO (V.route e (V.enter hO))
  | write actions => exact V.write rounds he hO
  | withConnection actions => exact V.withConnection rounds he hO
  | idle k => exact V.onIdle rounds k hO
  | exception e => exact V.exceptionCaught rounds e hO

end WholeVisitRule

/-- What has to be shown of a rule of turns besides for it to lead from one property of a bridge
that no loop runs to another one. -/
structure EntryRule (allowed : Action → Prop) (O P : Turn κ σ δ → Prop) : Prop
    extends Rule allowed P where
  outside : ∀ {t}, O t → t.hub.scope = none
  enter : ∀ {t : Turn κ σ δ}, O t → P { t with hub := t.hub.enter t.bridge.id }
  leave : ∀ loop {t : Turn κ σ δ}, P t → O { t with hub := t.hub.leave loop none }
  closeOutside : ∀ {t}, O t → O t.close
  call : ∀ {α : Type} {describe : α → CodecCall} {s : CodecStep κ α} {t},
    Codec.IsAnswer t.bridge.codec describe s → P t → P (t.withOutlet (t.outlet.call describe s).2)
  raise : ∀ e {t}, P t → P (t.onOutlet (·.raise e))
  flush : ∀ {t}, P t → P (t.onOutlet .flush)
  upgrade : ∀ {t : Turn κ σ δ}, P t → P { t with bridge := { t.bridge with upgrade := none } }
  decoded : ∀ input {t}, P t → P (t.decoded input)

/-- What has to be shown besides of a rule that also outlasts the end of a bridge. -/
structure WholeRule (allowed : Action → Prop) (O P : Turn κ σ δ → Prop) : Prop
    extends EntryRule allowed O P where
  letGo : ∀ {t}, P t →
    P (t.withOutlet (t.outlet.call (fun _ => .inactive) (Codec.deactivate t.bridge.codec)).2)
  shut : ∀ {t}, P t → P t.shut
  closed : ∀ {t : Turn κ σ δ}, t.bridge.channel.isOpen = false → P t →
    P { t with bridge := { t.bridge with state := .closed } }

namespace EntryRule

variable {allowed : Action → Prop} {O P : Turn κ σ δ → Prop}

omit [Decoder δ] in
theorem orRaise (E : EntryRule allowed O P) {α : Type}
    {describe : Except ProtocolError α → CodecCall} {s : CodecStep κ (Except ProtocolError α)}
    {t : Turn κ σ δ}
    (hs : Codec.IsAnswer t.bridge.codec describe s) (hP : P t) :
    P (t.withOutlet (.orRaise (t.outlet.call describe s))) := by
  have hcall := E.call hs hP
  rcases hr : t.outlet.call describe s with ⟨_ | _, o⟩
  · rw [hr] at hcall
    exact E.raise _ hcall
  · rw [hr] at hcall
    exact hcall

omit [Decoder δ] in
theorem applyUpgrade (E : EntryRule allowed O P) {t : Turn κ σ δ} (hP : P t) :
    P t.applyUpgrade := by
  have hupgrade := E.upgrade hP
  unfold Turn.applyUpgrade
  cases t.bridge.upgrade with
  | none => exact hupgrade
  | some u =>
      cases u with
      | server s => exact E.orRaise (.upgradeServer s) hupgrade
      | client => exact E.orRaise .upgradeClient hupgrade

/-- What holds of each part of an entry holds of the entry. -/
theorem visit (E : EntryRule allowed O P) : VisitRule allowed O P where
  toSettleRule := E.settling
  program hactions hP := E.program true .connection hactions hP
  notice := E.notice
  close := E.close
  started hP := by
    have hpreface := E.call .activate hP
    have hsent : P (Turn.advance _ .prefaceSent) := E.advance (by decide) hpreface
    exact E.notice _ (E.flush (E.applyUpgrade hsent))
  decoded := E.decoded
  enter := E.enter
  leave hO hP := by
    rw [E.outside hO]
    exact E.leave _ hP
  closeOutside := E.closeOutside

end EntryRule

namespace WholeRule

variable {allowed : Action → Prop} {O P : Turn κ σ δ → Prop}

omit [Decoder δ] in
theorem tearDown (W : WholeRule allowed O P) {t : Turn κ σ δ} (hP : P t) :
    P t.tearDown.state := by
  have hbye := W.sayGoodbye (W.shut hP)
  -- Whatever the application still does, the channel stays shut.
  exact Run.holds_andThen_state hbye (W.notice _ (W.closed (isOpen_sayGoodbye rfl) hbye))

theorem wholeVisit (W : WholeRule allowed O P) : WholeVisitRule allowed O P where
  toVisitRule := W.visit
  letGo hP := W.letGo (W.catchUp hP)
  tearDown := W.tearDown

end WholeRule

namespace Law

variable {good : Command → Prop} {P : List Promise → Turn κ σ δ → Prop}

omit [Decoder δ] in
theorem close (L : Law good P) {ps : List Promise} {t : Turn κ σ δ} (hP : P ps t) :
    P ps t.close :=
  (L.rule ps).close hP

omit [Decoder δ] in
/-- A law of turns is a rule for entries of a bridge that no loop runs. -/
theorem entryRule (L : Law good P) (ps : List Promise) :
    EntryRule (fun _ => True) (fun t => t.hub.scope = none ∧ P ps t) (P ps) where
  toRule := L.rule ps
  outside hO := hO.1
  enter hO := L.enterScope hO.1 hO.2
  leave loop t hP := ⟨Hub.law_scope_none.abandonCommands (.of (_ ++ []) rfl), L.leave loop hP⟩
  closeOutside {t} hO := by
    refine ⟨?_, L.close hO.2⟩
    simp only [Turn.close, onOutlet, withOutlet, Outlet.close]
    split
    · exact hO.1
    · exact hO.1
  call := L.call
  raise e t hP := (L.outlet t).raise e hP
  flush {t} hP := (L.outlet t).flush hP
  upgrade := L.upgrade
  decoded input _ hP := L.decoded input hP

theorem activate (L : Law good P) (rounds : Nat) {ps : List Promise} {t : Turn κ σ δ}
    (hscope : t.hub.scope = none) (hP : P ps t) : P ps (t.activate rounds).state :=
  ((L.entryRule ps).visit.activate rounds ⟨hscope, hP⟩).2

theorem decode (L : Law good P) (rounds : Nat) (input : Bytes) {ps : List Promise}
    {t : Turn κ σ δ} (hscope : t.hub.scope = none) (hP : P ps t) :
    P ps (t.decode rounds input).2.state :=
  ((L.entryRule ps).visit.decode rounds input ⟨hscope, hP⟩).2

theorem onIdle (L : Law good P) (rounds : Nat) (k : IdleKind) {ps : List Promise}
    {t : Turn κ σ δ} (hscope : t.hub.scope = none) (hP : P ps t) :
    P ps (t.onIdle rounds k).state :=
  ((L.entryRule ps).visit.onIdle rounds k ⟨hscope, hP⟩).2

theorem exceptionCaught (L : Law good P) (rounds : Nat) (e : BridgeError) {ps : List Promise}
    {t : Turn κ σ δ} (hscope : t.hub.scope = none) (hP : P ps t) :
    P ps (t.exceptionCaught rounds e).state :=
  ((L.entryRule ps).visit.exceptionCaught rounds e ⟨hscope, hP⟩).2

end Law

namespace WholeLaw

variable {good : Command → Prop} {P : List Promise → Turn κ σ δ → Prop}

omit [Decoder δ] in
theorem wholeRule (L : WholeLaw good P) (ps : List Promise) :
    WholeRule (fun _ => True) (fun t => t.hub.scope = none ∧ P ps t) (P ps) where
  toEntryRule := L.entryRule ps
  letGo := L.letGo
  shut {t} hP := L.resolveAll t.bridge.channel.failed_of_mem_markInactive (L.markInactive hP)
  closed := L.closed

omit [Decoder δ] in
theorem tearDown (L : WholeLaw good P) {ps : List Promise} {t : Turn κ σ δ} (hP : P ps t) :
    P ps t.tearDown.state :=
  (L.wholeRule ps).tearDown hP

/-- A law of turns holds after a bridge was told that its transport is gone. -/
theorem deactivate (L : WholeLaw good P) (rounds : Nat) {ps : List Promise} {t : Turn κ σ δ}
    (hscope : t.hub.scope = none) (hP : P ps t) : P ps (t.deactivate rounds).state :=
  ((L.wholeRule ps).wholeVisit.deactivate rounds ⟨hscope, hP⟩).2

theorem enterBy (L : WholeLaw good P) (rounds : Nat) (e : Entrance) {ps : List Promise}
    {t : Turn κ σ δ} (hscope : t.hub.scope = none) (hP : P ps t) :
    P ps (t.enterBy rounds e).state :=
  ((L.wholeRule ps).wholeVisit.enterBy rounds (fun _ _ => trivial) ⟨hscope, hP⟩).2

end WholeLaw

/-! ### Scopes -/

omit [Codec κ] [Connection σ] [Decoder δ] in
/-- A loop that was entered from outside of every loop has been left in the end. -/
theorem scope_onLoop {t : Turn κ σ δ} (hscope : t.hub.scope = none)
    (body : Turn κ σ δ → Run (Turn κ σ δ)) : (t.onLoop body).state.hub.scope = none := by
  simp only [onLoop, Run.state_map, Hub.leave, hscope]
  exact Hub.law_scope_none.abandonCommands (.of (_ ++ []) rfl)

theorem scope_enterBy (rounds : Nat) (e : Entrance) {t : Turn κ σ δ}
    (hscope : t.hub.scope = none) : (t.enterBy rounds e).state.hub.scope = none := by
  cases e with
  | deactivate =>
      simp only [enterBy, deactivate]
      split
      · exact hscope
      · exact scope_onLoop hscope _
  | close =>
      simp only [enterBy, close, advance, onOutlet, withOutlet, Outlet.close, Run.state_done]
      split
      · exact hscope
      · exact hscope
  | activate | decode | event | write | withConnection | idle | exception =>
      exact scope_onLoop hscope _

theorem scope_apply (rounds : Nat) (c : Command) {t : Turn κ σ δ}
    (hscope : t.hub.scope = none) : (t.apply rounds c).state.hub.scope = none :=
  scope_onLoop hscope _

end Turn

end FrameBridge
