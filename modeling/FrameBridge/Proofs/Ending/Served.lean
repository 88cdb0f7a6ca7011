import FrameBridge.Loop.Course
import FrameBridge.Proofs.Ending.Kept

/-!
# What a loop serves

A loop takes commands out of its queue from the front, one in a step.  So every command that was in
the queue at some time is served later on, or is still there when the loop comes to its end.

* `EventLoop.move_cases` tells the steps of a loop from what happens to it meanwhile.
* `EventLoop.served` lists the commands that are taken out while one thing after the other happens,
  and `EventLoop.queue_moves` says that no other command leaves the queue.
* `EventLoop.exists_lastStep` finds the step after which a loop does not go on.
-/

namespace FrameBridge.EventLoop

variable {κ σ δ τ : Type} {l l' : EventLoop κ σ δ (Tap τ)}

/-- What may happen to a loop without a step of its own. -/
inductive Meanwhile (l : EventLoop κ σ δ (Tap τ)) : EventLoop κ σ δ (Tap τ) → Prop
  | nothing : Meanwhile l l
  | use (target : LoopId) (a : HandleAction) :
      Meanwhile l (l.onHub (·.use target true .connection a))
  | shutDown : Meanwhile l { l with isShutDown := true }
  | elsewhere (inner : τ) : Meanwhile l { l with transport := { l.transport with inner } }
  | recode (codec : κ) :
      Meanwhile l { l with turn := { l.turn with bridge := { l.turn.bridge with codec } } }

theorem Meanwhile.phase (h : l.Meanwhile l') : l'.phase = l.phase := by
  cases h <;> rfl

theorem isRunning_of_phase (h : l'.phase = l.phase) : l'.isRunning = l.isRunning := by
  simp only [isRunning, h]

/-- Handles that are used meanwhile put commands into the queue, and take none out. -/
theorem Meanwhile.queue (h : l.Meanwhile l') : l.turn.queue <+: l'.turn.queue := by
  cases h with
  | use target a =>
      exact (Hub.law_queue l.id l.turn.queue).use target true .connection a
        (.of [] List.prefix_rfl)
  | nothing | shutDown | elsewhere | recode => exact List.prefix_rfl

theorem queue_setOut (l : EventLoop κ σ δ (Tap τ)) : l.setOut.queue = l.turn.queue := by
  obtain ⟨f, hsame⟩ := l.setOut_eq
  rw [hsame]
  rfl

/-- The command that is taken out of the queue when something happens to a loop. -/
def takes (l : EventLoop κ σ δ (Tap τ)) : LoopMove κ τ → Option Command
  | .step _ => l.serves
  | .use .. | .shutDown | .elsewhere _ | .recode _ => none

variable [Transport τ] [Codec κ] [Connection σ] [Decoder δ] {rounds : Nat}

/-- The commands that are taken out of the queue while one thing after the other happens. -/
def served (rounds : Nat) (l : EventLoop κ σ δ (Tap τ)) : List (LoopMove κ τ) → List Command
  | [] => []
  | m :: ms => (l.takes m).toList ++ (l.move rounds m).served rounds ms

theorem served_append (ms ms' : List (LoopMove κ τ)) (l : EventLoop κ σ δ (Tap τ)) :
    l.served rounds (ms ++ ms') =
      l.served rounds ms ++ (l.moves rounds ms).served rounds ms' := by
  induction ms generalizing l with
  | nil => rfl
  | cons m ms ih =>
      rw [List.cons_append, served, ih, served, List.append_assoc]
      rfl

/-- A loop that has to wait serves nothing. -/
theorem serves_of_waits {now : Nat} (h : l.step rounds now = none) : l.serves = none := by
  unfold step at h
  unfold serves
  cases hphase : l.phase with
  | starting | delivering _ | finished | stopped _ => rfl
  | polling =>
      simp only [hphase, poll] at h
      cases hdue : l.tracker.nextDeadline with
      | error why => rfl
      | ok due? =>
          simp only [hdue, look] at h ⊢
          split
          · rfl
          · rename_i hup
            rw [if_neg hup] at h
            split at h
            · cases h
            · rename_i hnone
              rw [hnone]
              rfl

theorem setOut_of_waits {now : Nat} (h : l.step rounds now = none) : l.setOut = l.turn := by
  unfold step at h
  unfold setOut
  cases hphase : l.phase with
  | starting =>
      rw [hphase] at h
      cases h
  | polling | delivering _ | finished | stopped _ => rfl

/-- A loop takes a step, or something happens to it meanwhile. -/
theorem move_cases (rounds : Nat) (l : EventLoop κ σ δ (Tap τ)) (m : LoopMove κ τ) :
    (∃ now, m = .step now ∧ l.step rounds now = some (l.move rounds m)) ∨
      l.takes m = none ∧ l.Meanwhile (l.move rounds m) := by
  cases m with
  | step now =>
      cases hstep : l.step rounds now with
      | none =>
          have hsame : l.move rounds (.step now) = l := by rw [move, hstep, Option.getD_none]
          rw [hsame]
          exact .inr ⟨serves_of_waits hstep, .nothing⟩
      | some l' =>
          have hnext : l.move rounds (.step now) = l' := by rw [move, hstep, Option.getD_some]
          rw [hnext]
          exact .inl ⟨now, rfl, hstep⟩
  | use target a => exact .inr ⟨rfl, .use _ a⟩
  | shutDown => exact .inr ⟨rfl, .shutDown⟩
  | elsewhere inner => exact .inr ⟨rfl, .elsewhere inner⟩
  | recode codec => exact .inr ⟨rfl, .recode codec⟩

/-! ### Going on -/

theorem isRunning_of_step {now : Nat} (h : l.step rounds now = some l') : l.isRunning = true := by
  unfold step at h
  unfold isRunning
  cases hphase : l.phase with
  | starting | polling | delivering _ => rfl
  | finished | stopped _ =>
      rw [hphase] at h
      cases h

/-- Where a loop goes on it went on before. -/
theorem isRunning_of_move {m : LoopMove κ τ} (h : (l.move rounds m).isRunning = true) :
    l.isRunning = true := by
  rcases l.move_cases rounds m with ⟨now, rfl, hstep⟩ | ⟨-, hmeanwhile⟩
  · exact isRunning_of_step hstep
  · rwa [isRunning_of_phase hmeanwhile.phase] at h

theorem isRunning_of_moves {ms : List (LoopMove κ τ)} (h : (l.moves rounds ms).isRunning = true) :
    l.isRunning = true := by
  induction ms generalizing l with
  | nil => exact h
  | cons m ms ih => exact isRunning_of_move (ih h)

/-- A loop that goes on does so after work on its bridge. -/
theorem works_of_step {now : Nat} (h : l.step rounds now = some l') (hon : l'.isRunning = true) :
    l.setOut.Works rounds l.serves.toList l'.turn ∧ l'.phase ≠ .starting := by
  cases outcome_step h with
  | goesOn _ hphase hworks => exact ⟨hworks, hphase⟩
  | ends => cases hon
  | stops hphase =>
      rw [isRunning, hphase] at hon
      cases hon

/-- As long as a loop goes on each of its steps is work for what it takes out of the queue. -/
theorem works_of_move {now : Nat} (hon : (l.move rounds (.step now)).isRunning = true) :
    l.setOut.Works rounds l.serves.toList (l.move rounds (.step now)).turn := by
  rw [move] at hon ⊢
  cases hstep : l.step rounds now with
  | none =>
      rw [serves_of_waits hstep, setOut_of_waits hstep]
      exact .refl
  | some l' =>
      rw [hstep] at hon
      exact (works_of_step hstep hon).1

/-- As long as a loop goes on it serves its queue from the front, while commands come in behind. -/
theorem queue_move {m : LoopMove κ τ} (hon : (l.move rounds m).isRunning = true) :
    l.turn.queue <+: (l.takes m).toList ++ (l.move rounds m).turn.queue := by
  rcases l.move_cases rounds m with ⟨now, rfl, hstep⟩ | ⟨htakes, hmeanwhile⟩
  · rw [← l.queue_setOut]
    exact (works_of_step hstep hon).1.queue
  · rw [htakes]
    exact hmeanwhile.queue

/-- Every command in the queue of a loop that goes on is served, or is still there. -/
theorem queue_moves {ms : List (LoopMove κ τ)} (hon : (l.moves rounds ms).isRunning = true) :
    l.turn.queue <+: l.served rounds ms ++ (l.moves rounds ms).turn.queue := by
  induction ms generalizing l with
  | nil => exact List.prefix_rfl
  | cons m ms ih =>
      have hfirst := queue_move (isRunning_of_moves (l := l.move rounds m) hon)
      have hrest := ih (l := l.move rounds m) hon
      rw [served, List.append_assoc]
      exact hfirst.trans ((List.prefix_append_right_inj _).mpr hrest)

/-- A loop that goes on no more took a last step. -/
theorem exists_lastStep {ms : List (LoopMove κ τ)} (hon : l.isRunning = true)
    (hoff : (l.moves rounds ms).isRunning = false) :
    ∃ earlier now later l', ms = earlier ++ .step now :: later ∧
      (l.moves rounds earlier).isRunning = true ∧
      (l.moves rounds earlier).step rounds now = some l' ∧ l'.isRunning = false ∧
      l.moves rounds ms = l'.moves rounds later := by
  induction ms generalizing l with
  | nil =>
      have hcontra : l.isRunning = false := hoff
      rw [hon] at hcontra
      cases hcontra
  | cons m ms ih =>
      cases hnext : (l.move rounds m).isRunning with
      | true =>
          obtain ⟨earlier, now, later, l', rfl, hrest⟩ := ih hnext hoff
          exact ⟨m :: earlier, now, later, l', rfl, hrest⟩
      | false =>
          rcases l.move_cases rounds m with ⟨now, rfl, hstep⟩ | ⟨-, hmeanwhile⟩
          · exact ⟨[], now, ms, _, rfl, hon, hstep, hnext, rfl⟩
          · rw [isRunning_of_phase hmeanwhile.phase, hon] at hnext
            cases hnext

/-- Nothing that happens to a loop makes it go on again. -/
theorem phase_moves {ms : List (LoopMove κ τ)} (hoff : l.isRunning = false) :
    (l.moves rounds ms).phase = l.phase := by
  induction ms generalizing l with
  | nil => rfl
  | cons m ms ih =>
      rcases l.move_cases rounds m with ⟨now, rfl, hstep⟩ | ⟨-, hmeanwhile⟩
      · rw [isRunning_of_step hstep] at hoff
        cases hoff
      · rw [← isRunning_of_phase hmeanwhile.phase] at hoff
        exact (ih hoff).trans hmeanwhile.phase

end FrameBridge.EventLoop
