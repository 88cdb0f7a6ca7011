import FrameBridge.Bridge.Outlet
import FrameBridge.Proofs.Law.Hub

/-!
# Laws of outlets

A law of outlets is a property that every write keeps, whoever asked for it, and that
application code keeps whatever it does.  Commands that are taken off the inline queue
are under way until they are performed, one after the other.

* `Outlet.WriteRule` lists what has to be shown for writes: a law of the hub, and what becomes of an
  outlet when one write is made or refused.  `Outlet.TalkRule` lists what has to be shown besides
  for application code that leaves the channel open, and `Outlet.Rule` for all application code.
* `Outlet.WriteRule.catchUp`, `Outlet.WriteRule.write` and `Outlet.Rule.program` say that this is
  enough.
* `Outlet.CallLaw` and `Outlet.Law` speak of the calls to the codec in place of the writes, and are
  such rules.
-/

namespace FrameBridge

/-- The answers of a codec, while the transport is up, to calls that hand it no promise; each
with how the call is entered into the journal. -/
inductive Codec.IsAnswer {κ : Type} [Codec κ] (c : κ) :
    ∀ {α : Type}, (α → CodecCall) → CodecStep κ α → Prop
  | activate : IsAnswer c (fun _ => .preface) (Codec.activate c)
  | upgradeServer (s : Settings) :
      IsAnswer c (fun _ => .upgradeServer s) (Codec.upgradeServer c s)
  | upgradeClient : IsAnswer c (fun _ => .upgradeClient) (Codec.upgradeClient c)
  | drain : IsAnswer c .drain (Codec.drain c)
  | consume (s : StreamId) (n : UInt32) : IsAnswer c (.consume s n) (Codec.consume c s n)
  | ownReaction {e : ProtocolError} {step : CodecStep κ Unit}
      (h : Codec.ownReaction c e = some step) : IsAnswer c (fun _ => .react e) step

theorem Channel.failed_of_mem_markInactive (c : Channel) :
    ∀ r ∈ c.markInactive.2, Hub.Failed r := by
  intro r hr
  obtain ⟨f, hf, rfl⟩ := List.mem_map.mp hr
  exact ⟨_, rfl⟩

theorem Channel.failed_of_mem_write (c : Channel) (f : Outbound) :
    ∀ r ∈ (c.write f).2, Hub.Failed r := by
  intro r hr
  unfold Channel.write at hr
  split at hr
  · cases hr
  · obtain rfl := List.mem_singleton.mp hr
    exact ⟨_, rfl⟩

@[simp] theorem Channel.isOpen_write (c : Channel) (f : Outbound) :
    (c.write f).1.isOpen = c.isOpen := by
  unfold Channel.write
  split <;> rfl

namespace Outlet

/-- What a codec asks of the channel does not open or shut it. -/
theorem isOpen_carryOut {κ : Type} (o : Outlet κ) (r : ChannelRequest) :
    (o.carryOut r).channel.isOpen = o.channel.isOpen := by
  cases r with
  | write bytes p => exact o.channel.isOpen_write _
  | notify e | raise e | flush | close => rfl

theorem holds_carryOut {κ : Type} {Q : Outlet κ → Prop} (hQ : ∀ o r, Q o → Q (o.carryOut r))
    (requests : List ChannelRequest) {o : Outlet κ} (ho : Q o) :
    Q (requests.foldl carryOut o) := by
  induction requests generalizing o with
  | nil => exact ho
  | cons r requests ih => exact ih (hQ o r ho)

variable {κ : Type} [Codec κ]

theorem catchUpWithin_of_idle {o : Outlet κ} {loop : LoopId}
    (h : o.hub.scope = some ⟨loop, []⟩) (depth : Nat) : o.catchUpWithin depth = o := by
  have hhub : { o.hub with scope := some ⟨loop, []⟩ } = o.hub := by rw [← h]
  cases depth <;> simp only [catchUpWithin, Hub.takeInline, h, hhub, List.foldl_nil]

/-- Nothing is performed where nothing waits. -/
theorem catchUp_of_idle {o : Outlet κ} {loop : LoopId} (h : o.hub.scope = some ⟨loop, []⟩) :
    o.catchUp = o :=
  catchUpWithin_of_idle h _

/-- What has to be shown of a property of outlets and of the promises under way, where it matters
how a write ends. -/
structure WriteRule (good : Command → Prop) (Q : List Promise → Outlet κ → Prop) : Prop where
  hub : ∀ o : Outlet κ, Hub.Law good fun ps h => Q ps { o with hub := h }
  good_of_waiting : ∀ {ps o}, Q ps o → ∀ c ∈ o.hub.takeInline.1, good c
  take : ∀ {ps o}, Q ps o →
    Q (o.hub.takeInline.1.map (·.promise) ++ ps) { o with hub := o.hub.takeInline.2 }
  perform : ∀ {c ps o}, good c → Q (c.promise :: ps) o → Q ps (o.perform c)

/-- What has to be shown besides for application code that gives octets back. -/
structure TalkRule (good : Command → Prop) (Q : List Promise → Outlet κ → Prop) : Prop
    extends WriteRule good Q where
  giveBack : ∀ s n {ps o}, Q ps o → Q ps (o.giveBack s n)

/-- What has to be shown besides for application code that also closes. -/
structure Rule (good : Command → Prop) (Q : List Promise → Outlet κ → Prop) : Prop
    extends TalkRule good Q where
  close : ∀ {ps o}, Q ps o → Q ps o.close

namespace WriteRule

variable {good : Command → Prop} {Q : List Promise → Outlet κ → Prop}

/-- A rule holds after the commands queued inline were taken and performed in some way, one after
the other. -/
theorem takeAndPerform (R : WriteRule good Q) (f : Outlet κ → Command → Outlet κ)
    (hf : ∀ c ps o, good c → Q (c.promise :: ps) o → Q ps (f o c)) {ps : List Promise}
    {o : Outlet κ} (hQ : Q ps o) :
    Q ps (o.hub.takeInline.1.foldl f { o with hub := o.hub.takeInline.2 }) := by
  -- The commands taken are under way until their turn; the induction is on those left.
  have fold : ∀ (cs : List Command) (o : Outlet κ), (∀ c ∈ cs, good c) →
      Q (cs.map (·.promise) ++ ps) o → Q ps (cs.foldl f o) := by
    intro cs
    induction cs with
    | nil => exact fun o _ hQ => hQ
    | cons c cs ih =>
        intro o hcs hQ
        have hrest : ∀ c' ∈ cs, good c' := fun c' h => hcs c' (List.mem_cons_of_mem c h)
        exact ih _ hrest (hf c _ o (hcs c List.mem_cons_self) hQ)
  exact fold _ _ (R.good_of_waiting hQ) (R.take hQ)

theorem catchUpWithin (R : WriteRule good Q) (depth : Nat) {ps : List Promise} {o : Outlet κ}
    (hQ : Q ps o) : Q ps (o.catchUpWithin depth) := by
  induction depth generalizing ps o with
  | zero => exact R.takeAndPerform _ (fun c ps o hc h => R.perform hc h) hQ
  | succ depth ih => exact R.takeAndPerform _ (fun c ps o hc h => R.perform hc (ih h)) hQ

theorem catchUp (R : WriteRule good Q) {ps : List Promise} {o : Outlet κ} (hQ : Q ps o) :
    Q ps o.catchUp :=
  R.catchUpWithin _ hQ

theorem write (R : WriteRule good Q) {c : Command} {ps : List Promise} {o : Outlet κ} (hc : good c)
    (hQ : Q (c.promise :: ps) o) : Q ps (o.write c) :=
  R.perform hc (R.catchUp hQ)

theorem writeVoid (R : WriteRule good Q) {c : Command} {ps : List Promise} {o : Outlet κ}
    (hc : c.promise = .void) (hQ : Q ps o) : Q ps (o.write c) := by
  apply R.write ((R.hub o).good_of_faithful (.of_void hc))
  rw [hc]
  exact (R.hub o).void hQ

end WriteRule

namespace TalkRule

variable {good : Command → Prop} {Q : List Promise → Outlet κ → Prop}

theorem consume (R : TalkRule good Q) (s : StreamId) (n : UInt32) {ps : List Promise} {o : Outlet κ}
    (hQ : Q ps o) : Q ps (o.consume s n) :=
  R.giveBack s n (R.catchUp hQ)

theorem push (R : TalkRule good Q) (s : StreamId) (hs : Headers) {ps : List Promise} {o : Outlet κ}
    (hQ : Q ps o) : Q ps (o.push s hs).2 := by
  have hreserve := (R.hub o).reserve o.home hQ
  unfold Outlet.push
  rcases hr : o.hub.reserve o.home with ⟨_ | id, h⟩
  · rw [hr] at hreserve
    exact hreserve
  · rw [hr] at hreserve
    exact R.writeVoid rfl hreserve

theorem writeWatched (R : TalkRule good Q) (w : WatchRequest) {c : Promise → Command}
    (hc : ∀ p, (c p).promise = p) {ps : List Promise} {o : Outlet κ} (hQ : Q ps o) :
    Q ps (o.writeWatched w c) := by
  cases w with
  | none => exact R.writeVoid (hc .void) hQ
  | some request =>
      obtain ⟨kind, label⟩ := request
      have hissue := (R.hub o).issue o.home kind label none hQ
      apply R.write ((R.hub o).good_of_faithful (.of_promised_none (hc _) rfl))
      rw [hc]
      exact hissue

/-- What a close keeps, if the action is one, the action keeps. -/
theorem act (R : TalkRule good Q) (now : StreamId) (a : WriterAction) {ps : List Promise}
    {o : Outlet κ} (hclose : a = .close → Q ps o.close) (hQ : Q ps o) : Q ps (o.act now a) := by
  cases a with
  | headers | data | frame | reset | goAway => exact R.writeVoid rfl hQ
  | ping | settings | pushId => exact R.writeWatched _ (fun _ => rfl) hQ
  | consume s n => exact R.consume _ n hQ
  | push s hs => exact (R.hub _).answered _ _ (R.push _ hs hQ)
  | isWritable | isActive => exact (R.hub o).answered _ _ hQ
  | close => exact hclose rfl

theorem step (R : TalkRule good Q) (hasWriter : Bool) (now : StreamId) (a : Action)
    {ps : List Promise} {o : Outlet κ} (hclose : a = .write .close → Q ps o.close) (hQ : Q ps o) :
    Q ps (o.step hasWriter now a).state := by
  cases a with
  | write a =>
      cases hasWriter with
      | true => exact R.act now a (fun ha => hclose (congrArg _ ha)) hQ
      | false => exact hQ
  | handle target offLoop a => exact (R.hub o).use _ offLoop now a hQ
  | panic m => exact hQ

/-- Application code that does not close its writer keeps what its actions keep. -/
theorem program (R : TalkRule good Q) (hasWriter : Bool) (now : StreamId) {actions : List Action}
    (hactions : ∀ a ∈ actions, a ≠ .write .close) {ps : List Promise} {o : Outlet κ}
    (hQ : Q ps o) : Q ps (o.program hasWriter now actions).state := by
  unfold Outlet.program
  exact Run.holds_each_of_mem (fun a ha o hQ =>
    R.step hasWriter now a (fun hclose => absurd hclose (hactions a ha)) hQ) hQ

end TalkRule

namespace Rule

variable {good : Command → Prop} {Q : List Promise → Outlet κ → Prop}

theorem step (R : Rule good Q) (hasWriter : Bool) (now : StreamId) (a : Action)
    {ps : List Promise} {o : Outlet κ} (hQ : Q ps o) : Q ps (o.step hasWriter now a).state :=
  R.toTalkRule.step hasWriter now a (fun _ => R.close hQ) hQ

theorem program (R : Rule good Q) (hasWriter : Bool) (now : StreamId) (actions : List Action)
    {ps : List Promise} {o : Outlet κ} (hQ : Q ps o) :
    Q ps (o.program hasWriter now actions).state := by
  unfold Outlet.program
  exact Run.holds_each (fun o a hQ => R.step hasWriter now a hQ) actions hQ

end Rule

/-- What has to be shown of a property of outlets and of the promises under way, as long as nobody
closes the channel. -/
structure CallLaw (good : Command → Prop) (Q : List Promise → Outlet κ → Prop) : Prop where
  hub : ∀ o : Outlet κ, Hub.Law good fun ps h => Q ps { o with hub := h }
  good_of_waiting : ∀ {ps o}, Q ps o → ∀ c ∈ o.hub.takeInline.1, good c
  take : ∀ {ps o}, Q ps o →
    Q (o.hub.takeInline.1.map (·.promise) ++ ps) { o with hub := o.hub.takeInline.2 }
  encode : ∀ {c ps o}, good c → Q (c.promise :: ps) o → Q ps (o.encode c.outgoing c.promise)
  call : ∀ {α : Type} {describe : α → CodecCall} {s : CodecStep κ α} {ps o},
    Codec.IsAnswer o.codec describe s → Q ps o → Q ps (o.call describe s).2
  flush : ∀ {ps o}, Q ps o → Q ps o.flush
  raise : ∀ e {ps o}, Q ps o → Q ps (o.raise e)

/-- What has to be shown of a property of outlets and of the promises under way. -/
structure Law (good : Command → Prop) (Q : List Promise → Outlet κ → Prop) : Prop
    extends CallLaw good Q where
  close : ∀ {ps o}, Q ps o → Q ps o.close
  refer : ∀ e {ps o}, Q ps o → Q ps (o.refer e)

namespace CallLaw

variable {good : Command → Prop} {Q : List Promise → Outlet κ → Prop}

theorem void (L : CallLaw good Q) {ps : List Promise} {o : Outlet κ} (hQ : Q ps o) :
    Q (.void :: ps) o :=
  (L.hub o).void hQ

theorem orRaise (L : CallLaw good Q) {α : Type} {describe : Except ProtocolError α → CodecCall}
    {s : CodecStep κ (Except ProtocolError α)} {ps : List Promise} {o : Outlet κ}
    (hs : Codec.IsAnswer o.codec describe s) (hQ : Q ps o) :
    Q ps (.orRaise (o.call describe s)) := by
  have hcall := L.call hs hQ
  rcases hr : o.call describe s with ⟨_ | _, o'⟩
  · rw [hr] at hcall
    exact L.raise _ hcall
  · rw [hr] at hcall
    exact hcall

theorem drain (L : CallLaw good Q) {ps : List Promise} {o : Outlet κ} (hQ : Q ps o) :
    Q ps o.drain :=
  L.orRaise .drain hQ

theorem afterEncoding (L : CallLaw good Q) (c : Command) {ps : List Promise} {o : Outlet κ}
    (hQ : Q ps o) : Q ps (o.afterEncoding c) := by
  cases c with
  | pushPromise s promised hs p => exact hQ
  | data s d ends =>
      simp only [Outlet.afterEncoding]
      split
      · exact L.flush (L.drain hQ)
      · exact L.flush hQ
  | headers | ping | frame | reset | goAway | settings => exact L.flush hQ

theorem perform (L : CallLaw good Q) {c : Command} {ps : List Promise} {o : Outlet κ}
    (hc : good c) (hQ : Q (c.promise :: ps) o) : Q ps (o.perform c) := by
  unfold Outlet.perform
  split
  · exact (L.hub o).abandon hQ
  · exact L.afterEncoding c (L.encode hc hQ)

theorem giveBack (L : CallLaw good Q) (s : StreamId) (n : UInt32) {ps : List Promise}
    {o : Outlet κ} (hQ : Q ps o) : Q ps (o.giveBack s n) := by
  have hcall := L.call (.consume s n) hQ
  unfold Outlet.giveBack
  split
  · exact hQ
  · rcases hr : o.call (.consume s n) (Codec.consume o.codec s n) with ⟨_ | told, o'⟩
    · rw [hr] at hcall
      exact L.raise _ hcall
    · rw [hr] at hcall
      cases told with
      | true => exact L.flush hcall
      | false => exact hcall

/-- A frame that the bridge encodes by itself carries no promise of anybody. -/
theorem encodeVoid (L : CallLaw good Q) {c : Command} (hc : c.promise = .void) {ps : List Promise}
    {o : Outlet κ} (hQ : Q ps o) : Q ps (o.encode c.outgoing .void) := by
  have hvoid : Q (c.promise :: ps) o := by
    rw [hc]
    exact L.void hQ
  have hencode := L.encode ((L.hub o).good_of_faithful (.of_void hc)) hvoid
  rw [hc] at hencode
  exact hencode

/-- What every call to the codec keeps every write keeps. -/
theorem talk (L : CallLaw good Q) : TalkRule good Q where
  hub := L.hub
  good_of_waiting := L.good_of_waiting
  take := L.take
  perform := L.perform
  giveBack := L.giveBack

end CallLaw

namespace Law

variable {good : Command → Prop} {Q : List Promise → Outlet κ → Prop}

/-- What every call to the codec and every close keep all application code keeps. -/
theorem rule (L : Law good Q) : Rule good Q where
  toTalkRule := L.talk
  close := L.close

theorem catchUpWithin (L : Law good Q) (depth : Nat) {ps : List Promise} {o : Outlet κ}
    (hQ : Q ps o) : Q ps (o.catchUpWithin depth) :=
  L.rule.catchUpWithin depth hQ

theorem catchUp (L : Law good Q) {ps : List Promise} {o : Outlet κ} (hQ : Q ps o) :
    Q ps o.catchUp :=
  L.rule.catchUp hQ

theorem write (L : Law good Q) {c : Command} {ps : List Promise} {o : Outlet κ} (hc : good c)
    (hQ : Q (c.promise :: ps) o) : Q ps (o.write c) :=
  L.rule.write hc hQ

theorem step (L : Law good Q) (hasWriter : Bool) (now : StreamId) (a : Action)
    {ps : List Promise} {o : Outlet κ} (hQ : Q ps o) : Q ps (o.step hasWriter now a).state :=
  L.rule.step hasWriter now a hQ

theorem program (L : Law good Q) (hasWriter : Bool) (now : StreamId) (actions : List Action)
    {ps : List Promise} {o : Outlet κ} (hQ : Q ps o) :
    Q ps (o.program hasWriter now actions).state :=
  L.rule.program hasWriter now actions hQ

end Law

/-- Nothing that is written shuts a channel or opens it again. -/
theorem law_isOpen (p : Bool → Prop) :
    Law (fun _ => True) (Regardless fun o : Outlet κ => p o.channel.isOpen) where
  hub o := Hub.law_of_constant (p o.channel.isOpen)
  good_of_waiting _ _ _ := trivial
  take h := h
  encode _ h := holds_carryOut (Q := fun o => p o.channel.isOpen)
    (fun o r h => (isOpen_carryOut o r).symm ▸ h) _ h
  call _ h := holds_carryOut (Q := fun o => p o.channel.isOpen)
    (fun o r h => (isOpen_carryOut o r).symm ▸ h) _ h
  refer _ _ _ h := h
  flush h := h
  close h := h
  raise _ _ _ h := h

end Outlet

end FrameBridge
