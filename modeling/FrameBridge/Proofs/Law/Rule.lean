import FrameBridge.Bridge.Moves
import FrameBridge.Proofs.Law.Journal

/-!
# Rules of turns

A rule of turns is a property that everything keeps which a bridge does while its loop runs it.
What application code asks for may be restricted to actions that are allowed.

* `Turn.TellRule` lists what has to be shown for calls to the application: what one action of its
  code does to the outbound side as a whole, and the few other changes that are made to a bridge.
* `Turn.EventRule` lists what has to be shown besides for events and errors, which are counted, and
  `Turn.Rule` what has to be shown besides for settling.
* `Turn.EventRule.route` and `Turn.Rule.settle` say that this is enough.
-/

namespace FrameBridge

/-- Whether an entry of the journal reports a call from the bridge to the application. -/
def Entry.isReport : Entry → Bool
  | .created | .handedOver | .callback _ | .hook .. | .asked _ => true
  | .codec _ | .accepted _ | .flushed | .resolved .. | .answered _ | .innerDone => false

section Reports

variable {e : Entry} (h : e.isReport)
include h

theorem Entry.accepted?_of_isReport : e.accepted? = none := by
  cases e <;> first | rfl | cases h

theorem Entry.called?_of_isReport : e.called? = none := by
  cases e <;> first | rfl | cases h

theorem Entry.isEnd_of_isReport : e.isEnd = false := by
  cases e <;> first | rfl | cases h

end Reports

/-- The actions that are handed in with an entry. -/
def Entrance.actions : Entrance → List Action
  | .write actions | .withConnection actions => actions
  | .activate | .deactivate | .close | .decode _ | .event _ | .idle _ | .exception _ => []

namespace Connection

variable {σ : Type} [Connection σ]

/-- Whatever a connection is told, and whatever it was told before, it answers with allowed
actions. -/
def Answers (allowed : Action → Prop) (s : σ) : Prop :=
  ∀ (told : List Callback) (c : Callback),
    ∀ a ∈ (respond (told.foldl (fun s c => (respond s c).1) s) c).2, allowed a

theorem Answers.now {allowed : Action → Prop} {s : σ} (h : Answers allowed s) (c : Callback) :
    ∀ a ∈ (respond s c).2, allowed a :=
  h [] c

theorem Answers.next {allowed : Action → Prop} {s : σ} (h : Answers allowed s) (c : Callback) :
    Answers allowed (respond s c).1 :=
  fun told => h (c :: told)

/-- A connection that is to be created does so with allowed actions, and then answers with them. -/
def Obeys (allowed : Action → Prop) (s : σ) : Prop :=
  (∀ a ∈ prepare s, allowed a) ∧ Answers allowed s

end Connection

/-- All hooks are made of allowed actions. -/
structure Hooks.Obey (allowed : Action → Prop) (h : Hooks) : Prop where
  established : ∀ hook ∈ h.established, ∀ a ∈ hook, allowed a
  removed : ∀ hook ∈ h.removed, ∀ a ∈ hook, allowed a

namespace Bridge

variable {κ σ δ : Type} [Connection σ]

/-- All application code that a bridge may still run by itself is made of allowed actions. -/
def Obeys (allowed : Action → Prop) (b : Bridge κ σ δ) : Prop :=
  b.hooks.Obey allowed ∧ (∀ s, b.blueprint = some s → Connection.Obeys allowed s) ∧
    ∀ s, b.session = some s → Connection.Answers allowed s.connection

variable {allowed : Action → Prop} {b : Bridge κ σ δ}

theorem Obeys.hooks (h : b.Obeys allowed) : b.hooks.Obey allowed := h.1

theorem Obeys.blueprint (h : b.Obeys allowed) {s : σ} (hs : b.blueprint = some s) :
    Connection.Obeys allowed s :=
  h.2.1 s hs

theorem Obeys.session (h : b.Obeys allowed) {s : Session σ δ} (hs : b.session = some s) :
    Connection.Answers allowed s.connection :=
  h.2.2 s hs

theorem obeys_all (b : Bridge κ σ δ) : b.Obeys fun _ => True :=
  ⟨⟨fun _ _ _ _ => trivial, fun _ _ _ _ => trivial⟩,
    fun _ _ => ⟨fun _ _ => trivial, fun _ _ _ _ => trivial⟩, fun _ _ _ _ _ _ => trivial⟩

end Bridge

namespace Turn

variable {κ σ δ : Type} [Codec κ] [Connection σ]

/-- What has to be shown of a property of turns in which the application is called. -/
structure TellRule (allowed : Action → Prop) (P : Turn κ σ δ → Prop) : Prop where
  obeys : ∀ {t}, P t → t.bridge.Obeys allowed
  step : ∀ hasWriter now {a t}, allowed a → P t →
    P (t.withOutlet (t.outlet.step hasWriter now a).state)
  record : ∀ {e t}, e.isReport → P t → P (t.record e)
  notice : ∀ n {t}, P t → P (t.notice n)
  advance : ∀ {next t}, next ≠ .closed → P t → P (t.advance next)
  session : ∀ {s} {t : Turn κ σ δ}, Connection.Answers allowed s.connection → P t →
    P { t with bridge := { t.bridge with session := some s } }
  blueprint : ∀ {t : Turn κ σ δ}, P t →
    P { t with bridge := { t.bridge with blueprint := none } }

/-- What has to be shown of a property of turns in which events and errors are handled. -/
structure EventRule (allowed : Action → Prop) (P : Turn κ σ δ → Prop) : Prop
    extends TellRule allowed P where
  meter : ∀ f {t}, P t → P (t.meter f)
  arrive : ∀ e {t : Turn κ σ δ}, P t → P { t with hub := t.hub.arrive t.bridge.id e }
  catchUp : ∀ {t}, P t → P t.catchUp
  react : ∀ e {t}, P t → P (t.onOutlet (·.react e))
  closing : ∀ {t}, P t → P (t.onOutlet .close)

/-- What has to be shown of a property of turns in which code runs on the loop. -/
structure Rule (allowed : Action → Prop) (P : Turn κ σ δ → Prop) : Prop
    extends EventRule allowed P where
  channel : ∀ faults notifications {t}, P t →
    P (t.onChannel ({ · with faults, notifications }))

namespace TellRule

variable {allowed : Action → Prop} {P : Turn κ σ δ → Prop}

theorem program (R : TellRule allowed P) (hasWriter : Bool) (now : StreamId) {actions : List Action}
    (hactions : ∀ a ∈ actions, allowed a) {t : Turn κ σ δ} (hP : P t) :
    P (t.program hasWriter now actions).state := by
  have hstep : ∀ a ∈ actions, ∀ o, P (t.withOutlet o) →
      P (t.withOutlet (o.step hasWriter now a).state) :=
    fun a ha o hP => R.step (t := t.withOutlet o) hasWriter now (hactions a ha) hP
  exact Run.holds_each_of_mem (P := fun o => P (t.withOutlet o)) hstep hP

theorem runHooks (R : TellRule allowed P) (kind : HookKind) {hooks : List (List Action)}
    (hhooks : ∀ hook ∈ hooks, ∀ a ∈ hook, allowed a) (index : Nat) {t : Turn κ σ δ} (hP : P t) :
    P (Turn.runHooks kind index hooks t).state := by
  induction hooks generalizing index t with
  | nil => exact hP
  | cons hook hooks ih =>
      have hrest : ∀ hook ∈ hooks, ∀ a ∈ hook, allowed a :=
        fun hook' h => hhooks hook' (List.mem_cons_of_mem hook h)
      apply Run.holds_andThen
      · exact R.program false .connection (hhooks hook List.mem_cons_self) (R.record rfl hP)
      · exact fun t hP => ih hrest (index + 1) hP

theorem afterListening (R : TellRule allowed P) {session : Session σ δ}
    (hsession : Connection.Answers allowed session.connection) (s : StreamId) (r : Processed δ)
    {t : Turn κ σ δ} (hP : P t) : P (t.afterListening session s r) := by
  have hsession := R.session (s := { session with listener := some r.listener }) hsession hP
  unfold Turn.afterListening
  simp only
  split
  · exact hsession
  · rename_i encoding hasked
    have hrecord := R.record (e := .asked encoding) rfl hsession
    split
    · exact R.notice _ hrecord
    · exact hrecord

theorem callback (R : TellRule allowed P) {connection : σ}
    (hanswers : Connection.Answers allowed connection) (c : Callback) {t : Turn κ σ δ} (hP : P t) :
    P (t.callback connection c).2.state := by
  have hrecord : P (t.record (.callback c)) := R.record rfl hP
  unfold Turn.callback
  refine R.program _ _ (hanswers.now c) ?_
  cases c with
  | frame f =>
      simp only
      split
      · exact hrecord
      · exact R.notice _ hrecord
  | _ => exact hrecord

theorem tell (R : TellRule allowed P) (c : Callback) {t : Turn κ σ δ} (hP : P t) :
    P (t.tell c).state := by
  unfold Turn.tell
  split
  · exact hP
  · rename_i session hsession
    have hanswers := (R.obeys hP).session hsession
    exact R.session (hanswers.next c) (R.callback hanswers c hP)

theorem handOver (R : TellRule allowed P) (c : Callback) {t : Turn κ σ δ} (hP : P t) :
    P (t.handOver c).state := by
  unfold Turn.handOver
  split
  · exact hP
  · have hrecord : P (t.record .handedOver) := R.record rfl hP
    simp only
    split
    · exact R.tell c hrecord
    · exact hrecord

theorem establish (R : TellRule allowed P) {blueprint : σ}
    (hblueprint : Connection.Obeys allowed blueprint) (s : Settings) {t : Turn κ σ δ} (hP : P t) :
    P (t.establish blueprint s).state := by
  obtain ⟨hprepare, hanswers⟩ := hblueprint
  apply Run.holds_andThen
  · exact R.program _ _ hprepare (R.record rfl (R.blueprint hP))
  · intro t hP
    apply Run.holds_andThen
    · apply Run.holds_andThen
      · exact R.callback hanswers _ (R.advance (by decide) (R.notice _ hP))
      · exact fun _ hafter => R.runHooks _ (R.obeys hP).hooks.established _ hafter
    · exact fun t hP => R.session (hanswers.next _) hP

theorem announce (R : TellRule allowed P) (e : ProtocolError) {t : Turn κ σ δ} (hP : P t) :
    P (t.announce e).state := by
  cases e with
  | stream s c m => exact R.handOver _ (R.notice _ hP)
  | connection c m => exact R.handOver _ (R.notice _ hP)

theorem onStreamChange (R : TellRule allowed P) (change : StreamChange) (s : StreamId)
    {t : Turn κ σ δ} (hP : P t) : P (t.onStreamChange change s).state := by
  unfold Turn.onStreamChange
  split
  · rename_i session hsession
    have hanswers : Connection.Answers allowed session.connection := (R.obeys hP).session hsession
    refine R.tell _ (R.session ?_ hP)
    exact hanswers
  · exact R.notice _ hP
  all_goals exact hP

theorem tellOr (R : TellRule allowed P) (c : Callback) (n : Notice) {t : Turn κ σ δ} (hP : P t) :
    P (t.tellOr c n).state := by
  unfold Turn.tellOr
  split
  · exact R.tell c hP
  · exact R.notice n hP

theorem sayGoodbye (R : TellRule allowed P) {t : Turn κ σ δ} (hP : P t) : P t.sayGoodbye.state := by
  have hhooks := (R.obeys hP).hooks
  unfold Turn.sayGoodbye
  split
  · exact Run.holds_andThen (R.handOver .closed hP) fun _ hP => R.runHooks _ hhooks.removed _ hP
  · exact R.notice _ hP

end TellRule

namespace EventRule

variable {allowed : Action → Prop} {P : Turn κ σ δ → Prop}

theorem close (R : EventRule allowed P) {t : Turn κ σ δ} (hP : P t) : P t.close :=
  R.advance (by decide) (R.closing hP)

theorem onError (R : EventRule allowed P) (e : ProtocolError) {t : Turn κ σ δ} (hP : P t) :
    P (t.onError e).state :=
  Run.holds_andThen (R.announce e hP) fun _ hP => R.react e (R.catchUp hP)

theorem reportException (R : EventRule allowed P) (e : BridgeError) {t : Turn κ σ δ} (hP : P t) :
    P (t.reportException e) := by
  unfold Turn.reportException
  split
  · exact R.meter _ (R.notice _ hP)
  · exact R.meter _ (R.notice _ hP)

theorem onException (R : EventRule allowed P) (e : BridgeError) {t : Turn κ σ δ} (hP : P t) :
    P (t.onException e).state := by
  unfold Turn.onException
  split
  · exact R.notice _ hP
  · exact Run.holds_andThen (R.onError _ (R.reportException e hP)) fun t hP => R.close hP

theorem onViolation (R : EventRule allowed P) (e : ProtocolError) {t : Turn κ σ δ} (hP : P t) :
    P (t.onViolation e).state :=
  R.onError e (R.meter _ hP)

theorem onEarlyFrame (R : EventRule allowed P) (f : Frame) {t : Turn κ σ δ} (hP : P t) :
    P (t.onEarlyFrame f).state := by
  unfold Turn.onEarlyFrame
  split
  · rename_i s blueprint hblueprint
    exact R.establish ((R.obeys hP).blueprint hblueprint) _ hP
  · exact R.onException _ hP
  · split
    · exact R.onException _ hP
    · exact R.onException _ hP

variable [Decoder δ]

theorem onFrame (R : EventRule allowed P) (f : Frame) {t : Turn κ σ δ} (hP : P t) :
    P (t.onFrame f).state := by
  unfold Turn.onFrame
  split
  · exact R.onEarlyFrame f hP
  · rename_i session hsession
    have hanswers := (R.obeys hP).session hsession
    split
    · exact R.tell _ hP
    · apply Run.holds_andThen
      · exact Run.holds_each (fun t f hP => R.tell _ hP) _ (R.afterListening hanswers _ _ hP)
      · intro t hP
        split
        · exact hP
        · exact R.onViolation _ hP

theorem route (R : EventRule allowed P) (e : Event) {t : Turn κ σ δ} (hP : P t) :
    P (t.route e).state := by
  have harrive := R.arrive e hP
  unfold Turn.route
  split
  · exact R.notice _ hP
  · cases e with
    | frame f => exact R.onFrame f (R.meter _ harrive)
    | stream change s => exact R.onStreamChange change s harrive
    | goAway g => exact R.tellOr _ _ harrive
    | writabilityChanged s => exact R.tellOr _ _ harrive
    | error e => exact R.onViolation e harrive

end EventRule

variable [Decoder δ]

/-- What has to be shown of a property of turns for it to be kept while everything is settled. -/
structure SettleRule (P : Turn κ σ δ → Prop) : Prop where
  catchUp : ∀ {t}, P t → P t.catchUp
  onException : ∀ e {t}, P t → P (t.onException e).state
  route : ∀ e {t}, P t → P (t.route e).state
  channel : ∀ faults notifications {t}, P t →
    P (t.onChannel ({ · with faults, notifications }))

/-- What settling needs holds after settling, however many rounds there are. -/
theorem SettleRule.settle {P : Turn κ σ δ → Prop} (R : SettleRule P) (rounds : Nat)
    {t : Turn κ σ δ} (hP : P t) : P (t.settle rounds).state := by
  -- Each round handles one fault, one batch of commands, or one notification.
  induction rounds generalizing t with
  | zero =>
      unfold Turn.settle
      split
      · exact hP
      · exact hP
  | succ rounds ih =>
      unfold Turn.settle
      split
      · rename_i fault faults hfaults
        refine Run.holds_andThen (R.onException fault ?_) fun t hP => ih hP
        exact R.channel faults t.bridge.channel.notifications hP
      · rename_i hfaults
        split
        · exact ih (R.catchUp hP)
        · split
          · rename_i e notifications hnotifications
            refine Run.holds_andThen (R.route e ?_) fun t hP => ih hP
            exact R.channel t.bridge.channel.faults notifications hP
          · exact hP

namespace Rule

variable {allowed : Action → Prop} {P : Turn κ σ δ → Prop}

/-- A rule of turns is kept while everything is settled. -/
theorem settling (R : Rule allowed P) : SettleRule P where
  catchUp := R.catchUp
  onException e _ hP := R.onException e hP
  route e _ hP := R.route e hP
  channel := R.channel

theorem settle (R : Rule allowed P) (rounds : Nat) {t : Turn κ σ δ} (hP : P t) :
    P (t.settle rounds).state :=
  R.settling.settle rounds hP

end Rule

end Turn

end FrameBridge
