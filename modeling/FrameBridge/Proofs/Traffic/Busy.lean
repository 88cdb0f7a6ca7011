import FrameBridge.Proofs.Law.Deed
import FrameBridge.Proofs.Traffic.Quiet

/-!
# Busy loops

What a bridge does while its loop runs it comes down to three things, as long as the code that
waits for writes sends nothing: it performs the commands that wait inline, it uses handles, and it
does what is no traffic.

* `Turn.BusyRule` lists what has to be shown of a property of turns.
* `Turn.BusyRule.rule` says that this makes a rule of turns, and `Turn.BusyRule.chain` that the
  property is kept by every chain of deeds.
-/

namespace FrameBridge.Turn

variable {κ σ δ : Type} [Codec κ]

/-- What has to be shown of a property of turns in which code runs on the loop that sends nothing
when it waits for a write. -/
structure BusyRule (P : Turn κ σ δ → Prop) : Prop where
  isMute : ∀ {t}, P t → t.hub.IsMute
  quiet : ∀ {t t'}, P t → t'.bridge.id = t.bridge.id → t.hub.Quiet t'.hub → P t'
  catchUp : ∀ {t}, P t → P t.catchUp
  use : ∀ target offLoop now a {t : Turn κ σ δ}, P t →
    P { t with hub := t.hub.use target offLoop now a }

namespace BusyRule

variable {P : Turn κ σ δ → Prop}

/-- What a single write brings about is no traffic. -/
theorem outlet (R : BusyRule P) {t : Turn κ σ δ} {f : Outlet κ → Outlet κ}
    (hf : ∀ {p : Outlet κ → Prop}, Outlet.Mild p → p t.outlet → p (f t.outlet)) (hP : P t) :
    P (t.onOutlet f) := by
  have hquiet := hf (Outlet.mild_quiet t.bridge.id (R.isMute hP)) ⟨rfl, .refl t.hub⟩
  exact R.quiet hP hquiet.1 hquiet.2

theorem write (R : BusyRule P) (c : Command) {t : Turn κ σ δ} (hP : P t) :
    P (t.onOutlet (·.write c)) :=
  R.outlet (f := (·.perform c)) (fun M hp => M.perform c hp) (R.catchUp hP)

theorem writeWatched (R : BusyRule P) (w : WatchRequest) (c : Promise → Command) {t : Turn κ σ δ}
    (hP : P t) : P (t.onOutlet (·.writeWatched w c)) := by
  have hpromise : P { t with hub := (t.hub.promise t.bridge.id w).2 } :=
    R.quiet hP rfl (.promise t.hub t.bridge.id w)
  exact R.write _ hpromise

theorem push (R : BusyRule P) (s : StreamId) (hs : Headers) {t : Turn κ σ δ} (hP : P t) :
    P (t.withOutlet (t.outlet.push s hs).2) := by
  have hreserve : P { t with hub := (t.hub.reserve t.bridge.id).2 } :=
    R.quiet hP rfl (.reserve t.hub t.bridge.id)
  have hhome : t.outlet.hub.reserve t.outlet.home = t.hub.reserve t.bridge.id := rfl
  unfold Outlet.push
  rw [hhome]
  rcases hr : t.hub.reserve t.bridge.id with ⟨_ | id, h⟩
  · rw [hr] at hreserve
    exact hreserve
  · rw [hr] at hreserve
    exact R.write _ hreserve

theorem record (R : BusyRule P) (e : Entry) {t : Turn κ σ δ} (hP : P t) : P (t.record e) :=
  R.quiet hP rfl (.record t.hub t.bridge.id e)

theorem act (R : BusyRule P) (now : StreamId) (a : WriterAction) {t : Turn κ σ δ} (hP : P t) :
    P (t.onOutlet (·.act now a)) := by
  cases a with
  | headers | data | frame | reset | goAway => exact R.write _ hP
  | ping | settings | pushId => exact R.writeWatched _ _ hP
  | consume s n =>
      exact R.outlet (f := (·.giveBack _ n)) (fun M hp => M.giveBack _ n hp) (R.catchUp hP)
  | push s hs => exact R.record _ (R.push _ hs hP)
  | isWritable | isActive => exact R.record _ hP
  | close => exact R.outlet (fun M hp => M.close hp) hP

theorem applyUpgrade (R : BusyRule P) {t : Turn κ σ δ} (hP : P t) : P t.applyUpgrade := by
  have hlater : P { t with bridge := { t.bridge with upgrade := none } } :=
    R.quiet hP rfl (.refl t.hub)
  unfold Turn.applyUpgrade
  split
  · exact hlater
  · exact R.outlet (f := fun o => .orRaise (o.call _ _))
      (fun M hp => M.orRaise (M.call _ _ hp)) hlater
  · exact R.outlet (f := fun o => .orRaise (o.call _ _))
      (fun M hp => M.orRaise (M.call _ _ hp)) hlater

variable [Connection σ]

/-- What is kept by the three things that a loop does is kept by everything that a bridge does
about its events and errors. -/
theorem rule (R : BusyRule P) : Rule (fun _ => True) P where
  obeys {t} _ := t.bridge.obeys_all
  step hasWriter now a t _ hP := by
    cases a with
    | write a =>
        cases hasWriter with
        | true => exact R.act now a hP
        | false => exact hP
    | handle target offLoop a => exact R.use _ offLoop now a hP
    | panic m => exact hP
  record {e _} _ hP := R.record e hP
  notice n {t} hP := R.quiet hP rfl (.aside t.bridge.id (.notice n))
  meter f {t} hP := R.quiet hP rfl (.aside t.bridge.id (.meter f))
  arrive e {t} hP := R.quiet hP rfl (.aside t.bridge.id (.arrive e))
  advance {_ t} _ hP := R.quiet hP rfl (.refl t.hub)
  session {_ t} _ hP := R.quiet hP rfl (.refl t.hub)
  blueprint {t} hP := R.quiet hP rfl (.refl t.hub)
  catchUp := R.catchUp
  react e _ hP := R.outlet (fun M hp => M.react e hp) hP
  closing hP := R.outlet (fun M hp => M.close hp) hP
  channel _ _ {t} hP := R.quiet hP rfl (.refl t.hub)

theorem tearDown (R : BusyRule P) {t : Turn κ σ δ} (hP : P t) : P t.tearDown.state := by
  have hshut : P t.shut := by
    have M := Outlet.mild_quiet (κ := κ) t.bridge.id (R.isMute hP)
    have hquiet := M.resolveAll (o := t.outlet) t.bridge.channel.failed_of_mem_markInactive
      ⟨rfl, .refl t.hub⟩
    exact R.quiet hP rfl hquiet.2
  exact Run.holds_andThen (R.rule.sayGoodbye hshut) fun t hP =>
    R.quiet hP rfl (.aside t.bridge.id (.notice _))

variable [Decoder δ]

/-- A deed keeps what its parts keep, however it ends. -/
theorem deed (R : BusyRule P) {t : Turn κ σ δ} {r : Run (Turn κ σ δ)} (h : t.Deed r) (hP : P t) :
    P r.state := by
  cases h with
  | program actions => exact R.rule.program true .connection (fun _ _ => trivial) hP
  | write c => exact R.write c hP
  | catchUp => exact R.catchUp hP
  | notice n => exact R.rule.notice n hP
  | flush => exact R.outlet (fun M hp => M.flush hp) hP
  | close => exact R.rule.close hP
  | preface =>
      exact R.quiet (R.outlet (f := fun o => (o.call _ (Codec.activate o.codec)).2)
        (fun M hp => M.call _ _ hp) hP) rfl (.refl _)
  | upgrade => exact R.applyUpgrade hP
  | decode input =>
      refine R.outlet (f := fun o => (Codec.decode o.codec input).requests.foldl Outlet.carryOut
        { o with codec := (Codec.decode o.codec input).codec }) (fun M hp => ?_) hP
      exact Outlet.holds_carryOut (fun _ r hp => M.carryOut r hp) _ (M.codec _ hp)
  | takeFault | takeNotification => exact R.quiet hP rfl (.refl t.hub)
  | onException e => exact R.rule.onException e hP
  | route e => exact R.rule.route e hP
  | letGo =>
      exact R.outlet (f := fun o => (o.call _ (Codec.deactivate o.codec)).2)
        (fun M hp => M.call _ _ hp) (R.catchUp hP)
  | tearDown => exact R.tearDown hP

/-- Whatever a bridge does while its loop runs keeps what the three things keep that it does. -/
theorem chain (R : BusyRule P) {t : Turn κ σ δ} {r : Run (Turn κ σ δ)} (h : Chain t r) (hP : P t) :
    P r.state :=
  h.keeps (fun hdeed hP => R.deed hdeed hP) hP

end BusyRule

end FrameBridge.Turn
