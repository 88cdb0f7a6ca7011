import FrameBridge.Proofs.Law.Turn

/-!
# Steady properties

A property of outlets is plain if it is kept by each single thing that happens to a channel or to
a hub, whatever a codec may have asked for.  It is steady if it is also kept when the commands that
wait inline are taken.

* `Outlet.Plain` and `Outlet.Steady` list what has to be shown; `Outlet.Mild` asks less, and speaks
  of what a write does besides taking the commands that wait.
* `Outlet.Steady.law` says that a steady property is a law of outlets, over any codec.
* `Outlet.Steady.rule` says that it is a rule of turns.
-/

namespace FrameBridge

/-- An entry of the journal that is about no frame and no promise. -/
def Entry.isAside : Entry → Bool
  | .created | .handedOver | .callback _ | .hook .. | .asked _ | .codec _ | .answered _
  | .innerDone => true
  | .accepted _ | .flushed | .resolved .. => false

theorem Entry.isAside_of_isReport {e : Entry} (h : e.isReport) : e.isAside := by
  cases e <;> first | rfl | cases h

theorem Entry.accepted?_of_isAside {e : Entry} (h : e.isAside) : e.accepted? = none := by
  cases e <;> first | rfl | cases h

/-- Changes of a hub that the bridge of a loop makes and that are about no frame and no promise. -/
inductive Hub.Aside (loop : LoopId) (h : Hub) : Hub → Prop
  | record {e : Entry} (he : e.isAside) : Aside loop h (h.record loop e)
  | notice (n : Notice) : Aside loop h (h.notice n)
  | meter (f : Metrics → Metrics) : Aside loop h (h.meter f)
  | arrive (e : Event) : Aside loop h (h.arrive loop e)
  | refer (e : ProtocolError) : Aside loop h (h.refer loop e)

namespace Hub.Aside

variable {loop : LoopId} {h h' : Hub}

theorem issued (ha : Aside loop h h') : h'.issued = h.issued := by
  cases ha <;> rfl

theorem scope (ha : Aside loop h h') : h'.scope = h.scope := by
  cases ha <;> rfl

theorem mailboxes (ha : Aside loop h h') : h'.mailboxes = h.mailboxes := by
  cases ha <;> rfl

theorem journal (ha : Aside loop h h') :
    h'.journal = h.journal ∨ ∃ r : Record, r.entry.isAside ∧ h'.journal = r :: h.journal := by
  cases ha with
  | @record e he => exact .inr ⟨⟨loop, e⟩, he, rfl⟩
  | notice | meter | arrive | refer => exact .inl rfl

end Hub.Aside

namespace Outlet

variable {κ : Type}

/-- What has to be shown of a property that each single thing keeps which happens to a channel, and
the end of a write. -/
structure Mild (p : Outlet κ → Prop) : Prop where
  resolve : ∀ {r o}, Hub.Failed r → p o → p { o with hub := o.hub.resolve r }
  aside : ∀ {o h}, Hub.Aside o.home o.hub h → p o → p { o with hub := h }
  codec : ∀ c {o}, p o → p { o with codec := c }
  buffer : ∀ f {o}, o.channel.isActive = true → p o →
    p { o with
      channel := { o.channel with pending := o.channel.pending ++ [f] }
      hub := o.hub.record o.home (.accepted f) }
  flush : ∀ {o}, p o → p o.flush
  requestClose : ∀ {o}, p o → p { o with channel := o.channel.requestClose }
  leaveWord : ∀ faults notifications {o}, p o →
    p { o with channel := { o.channel with faults, notifications } }

/-- What has to be shown of a property that has nothing to do with promises and codecs. -/
structure Plain (p : Outlet κ → Prop) : Prop where
  hub : ∀ o : Outlet κ, Hub.Law (fun _ => True) (Regardless fun h => p { o with hub := h })
  aside : ∀ {o h}, Hub.Aside o.home o.hub h → p o → p { o with hub := h }
  codec : ∀ c {o}, p o → p { o with codec := c }
  buffer : ∀ f {o}, o.channel.isActive = true → p o →
    p { o with
      channel := { o.channel with pending := o.channel.pending ++ [f] }
      hub := o.hub.record o.home (.accepted f) }
  flush : ∀ {o}, p o → p o.flush
  requestClose : ∀ {o}, p o → p { o with channel := o.channel.requestClose }
  leaveWord : ∀ faults notifications {o}, p o →
    p { o with channel := { o.channel with faults, notifications } }
  markInactive : ∀ {o}, p o → p { o with channel := o.channel.markInactive.1 }

/-- What has to be shown besides of a property that may speak of the scope. -/
structure Steady (p : Outlet κ → Prop) : Prop extends Plain p where
  take : ∀ {o}, p o → p { o with hub := o.hub.takeInline.2 }

namespace Mild

variable {p : Outlet κ → Prop}

theorem accept (M : Mild p) (f : Outbound) {o : Outlet κ} (hp : p o) : p (o.accept f) := by
  unfold Outlet.accept
  cases hactive : o.channel.isActive with
  | true =>
      simp only [Channel.write_of_active hactive, if_true]
      exact M.aside (.meter _) (M.buffer f hactive hp)
  | false =>
      simp only [Channel.write_of_inactive hactive]
      exact M.resolve ⟨_, rfl⟩ hp

theorem resolveAll (M : Mild p) {rs : List Resolution} (hrs : ∀ r ∈ rs, Hub.Failed r)
    {o : Outlet κ} (hp : p o) : p { o with hub := o.hub.resolveAll rs } := by
  induction rs generalizing o with
  | nil => exact hp
  | cons r rs ih =>
      have hrest : ∀ r' ∈ rs, Hub.Failed r' := fun r' hr' => hrs r' (List.mem_cons_of_mem r hr')
      exact ih hrest (M.resolve (hrs r List.mem_cons_self) hp)

theorem close (M : Mild p) {o : Outlet κ} (hp : p o) : p o.close := by
  unfold Outlet.close
  simp only
  split
  · exact M.requestClose hp
  · exact M.requestClose (M.aside (.notice _) hp)

theorem raise (M : Mild p) (e : ProtocolError) {o : Outlet κ} (hp : p o) : p (o.raise e) :=
  M.leaveWord (o.channel.faults ++ [BridgeError.protocol e]) o.channel.notifications hp

theorem carryOut (M : Mild p) (r : ChannelRequest) {o : Outlet κ} (hp : p o) :
    p (o.carryOut r) := by
  cases r with
  | write bytes promise => exact M.accept _ hp
  | notify e => exact M.leaveWord o.channel.faults (o.channel.notifications ++ [e]) hp
  | raise e => exact M.leaveWord (o.channel.faults ++ [e]) o.channel.notifications hp
  | flush => exact M.flush hp
  | close => exact M.close hp

/-- Whatever a codec answers when it is called, a mild property is kept. -/
theorem call (M : Mild p) {α : Type} (describe : α → CodecCall) (s : CodecStep κ α)
    {o : Outlet κ} (hp : p o) : p (o.call describe s).2 :=
  holds_carryOut (fun _ r hp => M.carryOut r hp) _
    (M.codec s.codec (M.aside (.record (e := .codec (describe s.result)) rfl) hp))

theorem orRaise (M : Mild p) {α : Type} {r : Except ProtocolError α × Outlet κ} (hp : p r.2) :
    p (.orRaise r) := by
  rcases r with ⟨_ | _, o⟩
  · exact M.raise _ hp
  · exact hp

variable [Codec κ]

theorem afterEncoding (M : Mild p) (c : Command) {o : Outlet κ} (hp : p o) :
    p (o.afterEncoding c) := by
  cases c with
  | pushPromise s promised hs q => exact hp
  | data s d ends =>
      simp only [Outlet.afterEncoding]
      split
      · exact M.flush (M.orRaise (M.call .drain (Codec.drain o.codec) hp))
      · exact M.flush hp
  | headers | ping | frame | reset | goAway | settings => exact M.flush hp

theorem perform (M : Mild p) (c : Command) {o : Outlet κ} (hp : p o) : p (o.perform c) := by
  unfold Outlet.perform
  split
  · exact M.resolve ⟨_, rfl⟩ hp
  · exact M.afterEncoding c (M.call _ _ hp)

theorem giveBack (M : Mild p) (s : StreamId) (n : UInt32) {o : Outlet κ} (hp : p o) :
    p (o.giveBack s n) := by
  have hcall := M.call (.consume s n) (Codec.consume o.codec s n) hp
  unfold Outlet.giveBack
  split
  · exact hp
  · rcases hr : o.call (.consume s n) (Codec.consume o.codec s n) with ⟨_ | told, o'⟩
    · rw [hr] at hcall
      exact M.raise _ hcall
    · rw [hr] at hcall
      cases told with
      | true => exact M.flush hcall
      | false => exact hcall

theorem react (M : Mild p) (e : ProtocolError) {o : Outlet κ} (hp : p o) : p (o.react e) := by
  have hrefer : p (o.refer e) := M.aside (.refer e) hp
  unfold Outlet.react
  simp only
  cases Codec.ownReaction (o.refer e).codec e with
  | some step => exact M.call _ step hrefer
  | none =>
      cases e with
      | stream s c m => exact M.flush (M.call _ _ hrefer)
      | connection c m => exact M.close (M.flush (M.call _ _ hrefer))

end Mild

namespace Plain

variable {p : Outlet κ → Prop}

/-- A plain property is mild, whoever waits for the end of a write. -/
theorem mild (S : Plain p) : Mild p where
  resolve {_ o} hr hp := (S.hub o).resolve hr (.of [_] hp)
  aside := S.aside
  codec := S.codec
  buffer := S.buffer
  flush := S.flush
  requestClose := S.requestClose
  leaveWord := S.leaveWord

theorem resolveAll (S : Plain p) {rs : List Resolution} (hrs : ∀ r ∈ rs, Hub.Failed r)
    {o : Outlet κ} (hp : p o) : p { o with hub := o.hub.resolveAll rs } :=
  S.mild.resolveAll hrs hp

theorem close (S : Plain p) {o : Outlet κ} (hp : p o) : p o.close := S.mild.close hp

theorem raise (S : Plain p) (e : ProtocolError) {o : Outlet κ} (hp : p o) : p (o.raise e) :=
  S.mild.raise e hp

theorem carryOut (S : Plain p) (r : ChannelRequest) {o : Outlet κ} (hp : p o) :
    p (o.carryOut r) :=
  S.mild.carryOut r hp

theorem call (S : Plain p) {α : Type} (describe : α → CodecCall) (s : CodecStep κ α)
    {o : Outlet κ} (hp : p o) : p (o.call describe s).2 :=
  S.mild.call describe s hp

end Plain

variable [Codec κ]

/-- A steady property is a law, whatever promises are under way. -/
theorem Steady.law {p : Outlet κ → Prop} (S : Steady p) :
    Law (fun _ => True) (Regardless p) where
  hub := S.hub
  good_of_waiting _ _ _ := trivial
  take hp := S.take hp
  encode _ hp := S.call _ _ hp
  call _ hp := S.call _ _ hp
  refer e _ _ hp := S.aside (.refer e) hp
  flush hp := S.flush hp
  close hp := S.close hp
  raise e _ _ hp := S.raise e hp

/-- A steady property is kept by everything that a bridge does besides to its outlet. -/
theorem Steady.rule {σ δ : Type} [Connection σ] {p : Outlet κ → Prop} (S : Steady p) :
    Turn.Rule (fun _ => True) fun t : Turn κ σ δ => p t.outlet where
  obeys {t} _ := t.bridge.obeys_all
  step hasWriter now a _ _ hp := S.law.step hasWriter now a (.of [] hp)
  catchUp {t} hp := S.law.catchUp (o := t.outlet) (.of [] hp)
  react e t hp := S.law.react (o := t.outlet) e (.of [] hp)
  closing {t} hp := S.close (o := t.outlet) hp
  record he hp := S.aside (.record (Entry.isAside_of_isReport he)) hp
  notice n _ hp := S.aside (.notice n) hp
  meter f _ hp := S.aside (.meter f) hp
  arrive e _ hp := S.aside (.arrive e) hp
  advance _ hp := hp
  session _ hp := hp
  blueprint hp := hp
  channel faults notifications _ hp := S.leaveWord faults notifications hp

end Outlet

end FrameBridge
