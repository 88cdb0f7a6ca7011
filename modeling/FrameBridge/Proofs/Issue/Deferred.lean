import FrameBridge.Proofs.Issue.Sight

/-!
# Deferred writes

A write that is made through a handle on the loop itself waits in the inline queue, and the
next write of a writer performs it first.  As long as nothing fails nothing joins the queue
meanwhile, so catching up comes down to performing one command after the other.
-/

namespace FrameBridge

/-- Something that application code asks of the codec of its bridge. -/
inductive Issue where
  | write (command : Command)
  | giveBack (stream : StreamId) (amount : UInt32)
deriving DecidableEq, Repr

namespace Outlet

variable {κ : Type} [Codec κ] {o o' : Outlet κ}

/-- Does at once what is asked. -/
def serve (o : Outlet κ) : Issue → Outlet κ
  | .write c => o.perform c
  | .giveBack s n => o.giveBack s n

/-- The outlet while the inline queue of its loop holds some commands. -/
def waitingFor (o : Outlet κ) (cs : List Command) : Outlet κ :=
  { o with hub := { o.hub with scope := some ⟨o.home, cs⟩ } }

theorem isCalm_of_serve {i : Issue} (h : (o.serve i).IsCalm) : o.IsCalm := by
  cases i with
  | write c => exact isCalm_of_perform h
  | giveBack s n => exact isCalm_of_giveBack h

theorem isCalm_of_foldl_serve {is : List Issue} (h : (is.foldl serve o).IsCalm) : o.IsCalm :=
  isCalm_of_foldl (fun _ _ => isCalm_of_serve) h

theorem bonds_serve {i : Issue} (h : (o.serve i).IsCalm) : (o.serve i).bonds = o.bonds := by
  cases i with
  | write c => exact bonds_perform h
  | giveBack s n => exact bonds_giveBack h

theorem bonds_foldl_serve {is : List Issue} (h : (is.foldl serve o).IsCalm) :
    (is.foldl serve o).bonds = o.bonds := by
  induction is generalizing o with
  | nil => rfl
  | cons i is ih => exact (ih h).trans (bonds_serve (isCalm_of_foldl_serve h))

/-! ### Catching up -/

/-- As long as nothing fails no command joins the queue while the others are performed. -/
theorem foldl_catchUpWithin {loop : LoopId} (depth : Nat) {cs : List Command}
    (hscope : o.hub.scope = some ⟨loop, []⟩)
    (hcalm : (cs.foldl perform o).IsCalm ∨
      (cs.foldl (fun o c => (o.catchUpWithin depth).perform c) o).IsCalm) :
    cs.foldl (fun o c => (o.catchUpWithin depth).perform c) o = cs.foldl perform o := by
  have hback (o : Outlet κ) (c : Command) (h : ((o.catchUpWithin depth).perform c).IsCalm) :
      o.IsCalm := by
    by_cases hcalm : o.IsCalm
    · exact hcalm
    · exact absurd (isCalm_of_perform h) (law_not_isCalm.catchUpWithin depth (.of [] hcalm))
  induction cs generalizing o with
  | nil => rfl
  | cons c cs ih =>
      simp only [List.foldl_cons, catchUpWithin_of_idle hscope] at hcalm ⊢
      have hfirst : (o.perform c).IsCalm := by
        rcases hcalm with h | h
        · exact isCalm_of_foldl (fun _ _ => isCalm_of_perform) h
        · exact isCalm_of_foldl hback h
      have hbonds := bonds_perform hfirst
      exact ih ((congrArg Bonds.scope hbonds).trans hscope) hcalm

/-- Catching up performs the commands that wait, one after the other, if this leaves a calm
outlet. -/
theorem catchUp_waitingFor {cs : List Command}
    (hcalm : (cs.foldl perform (o.waitingFor [])).IsCalm ∨ (o.waitingFor cs).catchUp.IsCalm) :
    (o.waitingFor cs).catchUp = cs.foldl perform (o.waitingFor []) := by
  unfold catchUp at hcalm ⊢
  cases hdepth : (o.waitingFor cs).hub.reactions.length with
  | zero => rfl
  | succ depth =>
      rw [hdepth] at hcalm
      exact foldl_catchUpWithin depth rfl hcalm

theorem sight_catchUp_waitingFor (o : Outlet κ) (cs : List Command) :
    (o.waitingFor cs).catchUp.sight = (cs.foldl perform (o.waitingFor [])).sight := by
  by_cases hcalm : (cs.foldl perform (o.waitingFor [])).IsCalm ∨ (o.waitingFor cs).catchUp.IsCalm
  · rw [catchUp_waitingFor hcalm]
  · obtain ⟨hperform, hcatchUp⟩ := not_or.mp hcalm
    rw [sight_of_not_calm hperform, sight_of_not_calm hcatchUp]

theorem isCalm_of_catchUp (h : o.catchUp.IsCalm) : o.IsCalm := by
  by_cases hcalm : o.IsCalm
  · exact hcalm
  · exact absurd h (law_not_isCalm.catchUp (.of [] hcalm))

/-- Commands that were caught up with wait no more. -/
theorem bonds_catchUp_waitingFor {cs : List Command} (h : (o.waitingFor cs).catchUp.IsCalm) :
    (o.waitingFor cs).catchUp.bonds = (o.waitingFor []).bonds := by
  have hcaught := catchUp_waitingFor (.inr h)
  rw [hcaught] at h ⊢
  have hserve : cs.foldl perform (o.waitingFor []) =
      (cs.map Issue.write).foldl serve (o.waitingFor []) := by
    rw [List.foldl_map]
    rfl
  rw [hserve] at h ⊢
  exact bonds_foldl_serve h

/-- Commands that ask for the same, performed one after the other, change outlets that are equal
at sight alike. -/
theorem sight_foldl_perform (hblind : Codec.IsBlind κ) (h : o.sight = o'.sight)
    (cs : List Command) : (cs.foldl perform o).sight = (cs.foldl perform o').sight := by
  induction cs generalizing o o' with
  | nil => exact h
  | cons c cs ih => exact ih (sight_perform hblind h rfl)

end Outlet

end FrameBridge
