import FrameBridge.Bridge.Drive
import FrameBridge.Proofs.Law.Deed

/-!
# Rules of drivers

A property of bridges that no scope matters to holds in every run of a driver if each part of an
entry keeps it and nothing that a driver does between two entries breaks it.

* `Turn.DriveRule` lists what has to be shown, and `Turn.DriveRule.run` says that this is enough.
* `Outlet.Steady.drive` says what has to be shown besides of a steady property.
-/

namespace FrameBridge

/-- The actions that a step of a driver hands to a bridge. -/
def DriveStep.actions {κ : Type} : DriveStep κ → List Action
  | .enter e => e.actions
  | .use .. | .receive | .apply _ | .drop _ | .dropQueue | .take | .finish .. | .recode _ => []

namespace Turn

variable {κ σ δ : Type} [Codec κ] [Connection σ] [Decoder δ]

/-- What has to be shown of a property of turns for a driver to keep it. -/
structure DriveRule (allowed : Action → Prop) (P : Turn κ σ δ → Prop) : Prop
    extends PartRule allowed P where
  write : ∀ c {t}, P t → P (t.onOutlet (·.write c))
  letGo : ∀ {t}, P t → P t.letGo
  tearDown : ∀ {t}, P t → P t.tearDown.state
  hub : ∀ t : Turn κ σ δ,
    Hub.Law (fun _ => True) (Regardless fun h => P { t with hub := h })
  scope : ∀ s {t : Turn κ σ δ}, P t → P { t with hub := { t.hub with scope := s } }
  mailbox : ∀ loop f {t : Turn κ σ δ}, P t → P { t with hub := t.hub.modifyMailbox loop f }
  log : ∀ r {t : Turn κ σ δ}, P t → P { t with hub := t.hub.log r }
  take : ∀ {t : Turn κ σ δ}, P t →
    P { t with bridge := { t.bridge with channel := t.bridge.channel.takeFlushed.2 } }
  recode : ∀ codec {t : Turn κ σ δ}, P t → P { t with bridge := { t.bridge with codec } }

namespace DriveRule

variable {allowed : Action → Prop} {P : Turn κ σ δ → Prop}

/-- Where no scope matters the same holds outside of the loop as on it. -/
theorem visit (D : DriveRule allowed P) : WholeVisitRule allowed P P where
  toPartRule := D.toPartRule
  letGo := D.letGo
  tearDown := D.tearDown
  closeOutside := D.close
  enter {t} hP := by
    obtain ⟨s, hs⟩ := t.hub.enter_eq t.bridge.id
    rw [hs]
    exact D.scope s hP
  leave {t t'} _ hP :=
    (D.hub t').leave (fun s h hp => D.scope s (t := { t' with hub := h }) hp) t.bridge.id
      t.hub.scope hP

theorem step (D : DriveRule allowed P) (rounds : Nat) {s : DriveStep κ}
    (hs : ∀ a ∈ s.actions, allowed a) {d : Drive κ σ δ} (hP : P d.turn) :
    P (d.step rounds s).turn := by
  cases s with
  | enter e => exact D.visit.enterBy rounds hs hP
  | use target a => exact (D.hub d.turn).use _ true .connection a (.of [] hP)
  | receive =>
      simp only [Drive.step]
      split
      · exact hP
      · rename_i c hub hnext
        obtain ⟨rest, -, rfl⟩ := Hub.eq_of_nextCommand hnext
        exact D.mailbox _ _ hP
  | apply index =>
      simp only [Drive.step]
      split
      · exact hP
      · rename_i c _
        show P (d.turn.apply rounds c).state
        refine D.visit.around rounds hP ?_
        exact D.write c (D.visit.enter hP)
  | drop index =>
      simp only [Drive.step]
      split
      · exact hP
      · rename_i c _
        exact (D.hub d.turn).abandon (.of [c.promise] hP)
  | dropQueue => exact (D.hub d.turn).abandonCommands (.of (_ ++ []) (D.mailbox _ _ hP))
  | take => exact D.take hP
  | finish index outcome =>
      simp only [Drive.step]
      split
      · exact hP
      · exact (D.hub d.turn).resolve_of_log (.of [] (D.log _ hP))
  | recode codec => exact D.recode codec hP

/-- A driver keeps what each of its steps keeps. -/
theorem run (D : DriveRule allowed P) (rounds : Nat) {steps : List (DriveStep κ)}
    (hsteps : ∀ s ∈ steps, ∀ a ∈ s.actions, allowed a) {d : Drive κ σ δ} (hP : P d.turn) :
    P (d.run rounds steps).turn := by
  induction steps generalizing d with
  | nil => exact hP
  | cons s steps ih =>
      have hrest : ∀ s' ∈ steps, ∀ a ∈ s'.actions, allowed a :=
        fun s' h => hsteps s' (List.mem_cons_of_mem s h)
      exact ih hrest (D.step rounds (hsteps s List.mem_cons_self) hP)

end DriveRule

end Turn

/-- What has to be shown besides of a steady property for a driver to keep it. -/
theorem Outlet.Steady.drive {κ σ δ : Type} [Codec κ] [Connection σ] [Decoder δ]
    {p : Outlet κ → Prop} (S : Outlet.Steady p)
    (hscope : ∀ s {o : Outlet κ}, p o → p { o with hub := { o.hub with scope := s } })
    (hmailbox : ∀ loop f {o : Outlet κ}, p o → p { o with hub := o.hub.modifyMailbox loop f })
    (hlog : ∀ r {o : Outlet κ}, p o → p { o with hub := o.hub.log r })
    (htake : ∀ {o : Outlet κ}, p o → p { o with channel := o.channel.takeFlushed.2 }) :
    Turn.DriveRule (fun _ => True) fun t : Turn κ σ δ => p t.outlet where
  catchUp hp := S.deed .catchUp hp
  onException e _ hp := S.deed (.onException e) hp
  route e _ hp := S.deed (.route e) hp
  channel faults notifications t hp := S.leaveWord (o := t.outlet) faults notifications hp
  program {actions _} _ hp := S.deed (.program actions) hp
  notice n _ hp := S.deed (.notice n) hp
  close hp := S.deed .close hp
  started {t} hp := t.chain_started.keeps S.deed hp
  decoded input _ hp := S.deed (.decode input) hp
  letGo hp := S.deed .letGo hp
  tearDown hp := S.deed .tearDown hp
  write c _ hp := S.deed (.write c) hp
  hub t := S.hub t.outlet
  scope s t hp := hscope s (o := t.outlet) hp
  mailbox loop f t hp := hmailbox loop f (o := t.outlet) hp
  log r t hp := hlog r (o := t.outlet) hp
  take {t} hp := htake (o := t.outlet) hp
  recode codec t hp := S.codec codec (o := t.outlet) hp

end FrameBridge
