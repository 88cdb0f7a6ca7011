import FrameBridge.Proofs.Fault.Leftover
import FrameBridge.Proofs.Traffic.Runs

/-!
# Nested entries

Code on the loop of one bridge may enter other bridges, and code on their loops may enter still
others.  It has all writers at hand that it was given on the way.

* `Code` is such code as a tree, and `Code.exec` executes it.
* `Fleet.visits_entry` says that an entry leaves the other loops of the task as they are.
* `Code.visits_exec` says that whatever is executed is a run of the fleet, after which the task is
  back on its loops.
* `Code.exec_write` says that code which enters a bridge and no other one inside does just what
  `Turn.write` does.
-/

namespace FrameBridge

/-- Code of the application, on some loop or outside of every loop. -/
inductive Code where
  | done
  /-- Uses the writer of a bridge. -/
  | act (bridge : LoopId) (action : WriterAction) (next : Code)
  /-- Uses the handle of a bridge. -/
  | use (target : LoopId) (offLoop : Bool) (action : HandleAction) (next : Code)
  /-- Enters a bridge to run code on its loop, and goes on when that has returned. -/
  | enter (bridge : LoopId) (body next : Code)
  | panic (message : String)
deriving Repr

namespace Code

/-- The bridges that code enters. -/
def entered : Code → List LoopId
  | .done | .panic _ => []
  | .act _ _ next | .use _ _ _ next => next.entered
  | .enter bridge body next => bridge :: (body.entered ++ next.entered)

/-- Whether code uses each writer only on the loop of its own bridge, the `loop` given being the one
that runs. -/
def keepsToOwn (loop : Option LoopId) : Code → Bool
  | .done | .panic _ => true
  | .act bridge _ next => loop = some bridge && next.keepsToOwn loop
  | .use _ _ _ next => next.keepsToOwn loop
  | .enter bridge body next => body.keepsToOwn (some bridge) && next.keepsToOwn loop

end Code

namespace Fleet

variable {κ σ δ : Type} [Codec κ] [Connection σ] [Decoder δ]

/-- Has a task enter a bridge and run something on its loop.  However that ends, the loop is left. -/
def entry (rounds task : Nat) (bridge : LoopId) (body : Fleet κ σ δ → Run (Fleet κ σ δ))
    (f : Fleet κ σ δ) : Run (Fleet κ σ δ) :=
  ((body (f.enter task bridge)).andThen fun g =>
    ((g.turn task bridge).settle rounds).map g.put).map fun g =>
      g.leave task bridge (f.tasks task)

end Fleet

/-- Has a task execute code.  A bridge that the task is in already cannot be entered once more.  A
panic passes through all entries. -/
def Code.exec {κ σ δ : Type} [Codec κ] [Connection σ] [Decoder δ] (rounds task : Nat) :
    Code → Fleet κ σ δ → Run (Fleet κ σ δ)
  | .done, f => .done f
  | .act bridge a next, f =>
      next.exec rounds task (f.put ((f.turn task bridge).onOutlet (·.act .connection a)))
  | .use target offLoop a next, f =>
      next.exec rounds task (f.withHub ((f.hubOf task).use target offLoop .connection a))
  | .enter bridge body next, f =>
      if bridge ∈ f.tasks task then next.exec rounds task f
      else (f.entry rounds task bridge (body.exec rounds task)).andThen (next.exec rounds task)
  | .panic m, f => .stopped (.panicked m) f

namespace Fleet

variable {κ σ δ : Type} [Codec κ] {f g : Fleet κ σ δ} {task : Nat} {own own' : Prop}
  {r : Run (Fleet κ σ δ)}

/-- Whoever uses a writer leaves the other loops of the task as they are. -/
theorem visits_act (hf : f.IsSound) (task : Nat) (bridge : LoopId) (now : StreamId)
    (a : WriterAction) :
    f.Visits task (∀ l ∈ (f.tasks task).head?, l = bridge)
      (.done (f.put ((f.turn task bridge).onOutlet (·.act now a)))) :=
  ((Works.rule hf).act now a (Works.refl hf task bridge)).visits none

/-- So does whoever uses a handle. -/
theorem visits_use (hf : f.IsSound) (task : Nat) (target : LoopId) (offLoop : Bool)
    (now : StreamId) (a : HandleAction) :
    f.Visits task True (.done (f.withHub ((f.hubOf task).use target offLoop now a))) := by
  -- The hub is in the hands of whichever bridge runs innermost.
  have hworks := (Works.refl hf task ((f.tasks task).head?.getD target)).use hf target offLoop now a
  have hput := put_bridge hf ((f.tasks task).head?.getD target)
    ((f.hubOf task).use target offLoop now a)
  have hvisits := hworks.visits none
  simp only [turn, hput] at hvisits
  refine hvisits.mono fun _ l hl => ?_
  rw [Option.mem_def.mp hl]
  rfl

variable [Connection σ] [Decoder δ]

/-- What a bridge settles is a run of the fleet. -/
theorem visits_settle (hf : f.IsSound) (task rounds : Nat) (bridge : LoopId) :
    f.Visits task (∀ l ∈ (f.tasks task).head?, l = bridge)
      (((f.turn task bridge).settle rounds).map f.put) :=
  Works.visits ((Works.rule hf).chain (Turn.chain_settle rounds _) (Works.refl hf task bridge)) _

/-- What goes on inside of an entry is a run of the fleet if its body is, and the bridge sees it as
its own body and settling. -/
theorem visits_inside (hf : f.IsSound) {bridge : LoopId} (hfree : ¬ f.IsRunning bridge)
    (rounds : Nat) (hr : (f.enter task bridge).Visits task own r) :
    (f.enter task bridge).Visits task own
        (r.andThen fun g => ((g.turn task bridge).settle rounds).map g.put) ∧
      (r.andThen fun g => ((g.turn task bridge).settle rounds).map g.put).map (·.turn task bridge) =
        (r.map (·.turn task bridge)).andThen (Turn.settle rounds) := by
  have hsound := hr.isSound (isSound_step hf (.enter task bridge hfree))
  constructor
  · refine hr.andThen ((visits_settle hsound task rounds bridge).mono fun _ l hl => ?_)
    have hloops := f.tasks_enter task bridge
    rw [hr.tasks, hloops] at hl
    exact (Option.some.inj hl).symm
  · have hworks := (Works.rule hsound).chain
      (Turn.chain_settle rounds (r.state.turn task bridge)) (Works.refl hsound task bridge)
    obtain ⟨g, stop⟩ := r
    cases stop with
    | some why => rfl
    | none => exact congrArg (Run.mk · _) hworks.turn_eq

/-- An entry of a bridge that nobody runs is a run of the fleet if its body is, and changes nothing
of what waits on the loops that its task is on. -/
theorem visits_entry (hf : f.IsSound) {bridge : LoopId} (hfree : ¬ f.IsRunning bridge)
    (rounds : Nat) {body : Fleet κ σ δ → Run (Fleet κ σ δ)}
    (hbody : (f.enter task bridge).Visits task own (body (f.enter task bridge))) :
    f.Visits task own (f.entry rounds task bridge body) ∧
      ∀ l ∈ f.tasks task, (f.entry rounds task bridge body).state.inline l = f.inline l := by
  obtain ⟨hinside, hturn⟩ := visits_inside hf hfree rounds hbody
  refine hinside.leave hfree fun hend => ?_
  have hstop := congrArg Run.stop hturn
  have hstate := congrArg Run.state hturn
  rw [Run.stop_map] at hstop
  rw [Run.state_map] at hstate
  rw [hstop] at hend
  obtain ⟨hend, hsettled⟩ := Run.stop_andThen.mp hend
  rw [hstate, Run.state_andThen hend]
  exact Turn.isSettled_settle rounds hsettled

/-- To its bridge an entry is its body and settling on the own loop. -/
theorem turn_entry (hf : f.IsSound) {bridge : LoopId} (hfree : ¬ f.IsRunning bridge)
    (rounds : Nat) {body : Fleet κ σ δ → Run (Fleet κ σ δ)}
    (hbody : (f.enter task bridge).Visits task own (body (f.enter task bridge))) :
    (f.entry rounds task bridge body).map (·.turn task bridge) =
      (((body (f.enter task bridge)).map (·.turn task bridge)).andThen (Turn.settle rounds)).map
        (·.leaving bridge (f.hubOf task).scope) := by
  obtain ⟨hinside, hturn⟩ := visits_inside hf hfree rounds hbody
  rw [← hturn]
  exact congrArg (Run.mk · _) (hinside.turn_leave hf hfree)

end Fleet

namespace Code

variable {κ σ δ : Type} [Codec κ] [Connection σ] [Decoder δ] {f : Fleet κ σ δ} {task : Nat}

open Fleet (Visits Works)

theorem exec_enter_of_mem {bridge : LoopId} (hin : bridge ∈ f.tasks task) (rounds : Nat)
    (body next : Code) :
    (Code.enter bridge body next).exec rounds task f = next.exec rounds task f :=
  if_pos hin

theorem exec_enter {bridge : LoopId} (hout : bridge ∉ f.tasks task) (rounds : Nat)
    (body next : Code) :
    (Code.enter bridge body next).exec rounds task f =
      (f.entry rounds task bridge (body.exec rounds task)).andThen (next.exec rounds task) :=
  if_neg hout

/-- Whatever code a task executes is a run of the fleet, after which the task is back on its loops.
Nothing is aborted if the code comes to its end. -/
theorem visits_exec (hf : f.IsSound) (rounds : Nat) (code : Code)
    (hfree : ∀ b ∈ code.entered, ∀ i, i ≠ task → b ∉ f.tasks i) :
    f.Visits task (code.keepsToOwn (f.tasks task).head? = true) (code.exec rounds task f) := by
  induction code generalizing f with
  | done => exact (Visits.stopped f task none).mono fun _ => trivial
  | panic m => exact (Visits.stopped f task _).mono fun _ => trivial
  | act bridge a next ih =>
      have hfirst := Fleet.visits_act hf task bridge .connection a
      have hnext := ih (hfirst.isSound hf) hfree
      refine ((hfirst.mono ?_).andThen (hnext.mono ?_) :)
      · simp only [keepsToOwn, Bool.and_eq_true, decide_eq_true_eq]
        rintro ⟨hloop, -⟩ l hl
        rw [hloop] at hl
        exact (Option.some.inj hl).symm
      · simp only [keepsToOwn, Bool.and_eq_true]
        exact fun h => h.2
  | use target offLoop a next ih =>
      have hfirst := Fleet.visits_use hf task target offLoop .connection a
      have hnext := ih (hfirst.isSound hf) hfree
      exact ((hfirst.mono fun _ => trivial).andThen hnext :)
  | enter bridge body next ihbody ihnext =>
      have hfreeNext : ∀ b ∈ next.entered, ∀ i, i ≠ task → b ∉ f.tasks i := fun b hb =>
        hfree b (List.mem_cons_of_mem _ (List.mem_append_right _ hb))
      by_cases hin : bridge ∈ f.tasks task
      · rw [exec_enter_of_mem hin]
        exact (ihnext hf hfreeNext).mono fun h => (Bool.and_eq_true _ _ ▸ h).2
      · have hrunning : ¬ f.IsRunning bridge := by
          rintro ⟨i, hi⟩
          by_cases hti : i = task
          · exact hin (hti ▸ hi)
          · exact hfree bridge List.mem_cons_self i hti hi
        have hloops := f.tasks_enter task bridge
        have hfreeBody : ∀ b ∈ body.entered, ∀ i, i ≠ task → b ∉ (f.enter task bridge).tasks i := by
          intro b hb i hi
          have hothers : (f.enter task bridge).tasks i = f.tasks i := Function.update_of_ne hi ..
          rw [hothers]
          exact hfree b (List.mem_cons_of_mem _ (List.mem_append_left _ hb)) i hi
        have hbody := ihbody (Fleet.isSound_step hf (.enter task bridge hrunning)) hfreeBody
        rw [hloops] at hbody
        have hentry := (Fleet.visits_entry hf hrunning rounds hbody).1
        have hnext := ihnext (hentry.isSound hf) (hentry.tasks ▸ hfreeNext)
        rw [hentry.tasks] at hnext
        rw [exec_enter hin]
        refine (hentry.mono ?_).andThen (hnext.mono ?_)
        · exact fun h => (Bool.and_eq_true _ _ ▸ h).1
        · exact fun h => (Bool.and_eq_true _ _ ▸ h).2

/-! ### Code that enters nothing inside -/

/-- Actions on the loop of a bridge as code. -/
def ofActions (bridge : LoopId) : List Action → Code
  | [] => .done
  | .write a :: actions => .act bridge a (ofActions bridge actions)
  | .handle target offLoop a :: actions =>
      .use (target.getD bridge) offLoop a (ofActions bridge actions)
  | .panic m :: _ => .panic m

omit [Connection σ] [Decoder δ] in
/-- The first of some actions comes ahead of the others. -/
theorem program_cons (a : Action) (actions : List Action) (t : Turn κ σ δ) :
    t.program true .connection (a :: actions) =
      ((t.outlet.step true .connection a).map t.withOutlet).andThen
        (Turn.program true .connection actions) := by
  rw [← List.singleton_append, Turn.program_append]
  congr 1
  simp only [Turn.program, Outlet.program, Run.each]
  cases hstep : t.outlet.step true .connection a with
  | mk o stop => cases stop <;> rfl

/-- On the loop of a bridge actions are executed as the bridge runs them. -/
theorem exec_ofActions (hf : f.IsSound) {bridge : LoopId} {outer : List LoopId}
    (h : f.tasks task = bridge :: outer) (rounds : Nat) (actions : List Action) :
    ((ofActions bridge actions).exec rounds task f).map (·.turn task bridge) =
      (f.turn task bridge).program true .connection actions := by
  induction actions generalizing f with
  | nil => rfl
  | cons a actions ih =>
      have hstart := Works.refl hf task bridge
      rw [program_cons]
      cases a with
      | write a =>
          have hturn : (f.put ((f.turn task bridge).onOutlet (·.act .connection a))).turn task
              bridge = (f.turn task bridge).onOutlet (·.act .connection a) :=
            ((Works.rule hf).act .connection a hstart).turn_eq
          have hnext : (f.put ((f.turn task bridge).onOutlet (·.act .connection a))).IsSound :=
            (Fleet.visits_act hf task bridge .connection a).isSound hf
          have hrest := ih hnext h
          rw [hturn] at hrest
          exact hrest
      | handle target offLoop a =>
          have hid : (f.bridges bridge).id = bridge := hf.named bridge
          let hub := (f.hubOf task).use (target.getD bridge) offLoop .connection a
          have hput : f.put ⟨f.bridges bridge, hub⟩ = f.withHub hub := Fleet.put_bridge hf bridge hub
          have hturn : (f.put ⟨f.bridges bridge, hub⟩).turn task bridge = ⟨f.bridges bridge, hub⟩ :=
            (hstart.use hf (target.getD bridge) offLoop .connection a).turn_eq
          have hnext : (f.withHub hub).IsSound :=
            (Fleet.visits_use hf task (target.getD bridge) offLoop .connection a).isSound hf
          have hstep : (f.turn task bridge).outlet.step true .connection
              (.handle target offLoop a) = .done { (f.turn task bridge).outlet with hub } := by
            show Run.done { (f.turn task bridge).outlet with
              hub := (f.hubOf task).use (target.getD (f.bridges bridge).id) offLoop
                .connection a } = _
            rw [hid]
          have hrest := ih hnext h
          rw [← hput, hturn, hput] at hrest
          rw [hstep]
          exact hrest
      | panic m => rfl

/-- Code that enters a bridge, and nothing inside, does what the entry does. -/
theorem exec_write (hf : f.IsSound) {bridge : LoopId} (hfree : ¬ f.IsRunning bridge)
    (rounds : Nat) (actions : List Action) :
    ((Code.enter bridge (ofActions bridge actions) .done).exec rounds task f).map
        (·.turn task bridge) = (f.turn task bridge).write rounds actions := by
  have hentered := Fleet.isSound_step hf (.enter task bridge hfree)
  have hloops := f.tasks_enter task bridge
  have hout : bridge ∉ f.tasks task := fun hin => hfree ⟨task, hin⟩
  have hnone : (ofActions bridge actions).entered = [] := by
    induction actions with
    | nil => rfl
    | cons a actions ih =>
        cases a with
        | write | handle => exact ih
        | panic => rfl
  have hbody : (f.enter task bridge).Visits task _ ((ofActions bridge actions).exec rounds task _) :=
    visits_exec hentered rounds (ofActions bridge actions) (by simp [hnone])
  have hexec : (Code.enter bridge (ofActions bridge actions) .done).exec rounds task f =
      f.entry rounds task bridge ((ofActions bridge actions).exec rounds task) := by
    rw [exec_enter hout]
    cases hr : f.entry rounds task bridge ((ofActions bridge actions).exec rounds task) with
    | mk g stop => cases stop <;> rfl
  have hwrite : (f.turn task bridge).write rounds actions =
      ((((f.turn task bridge).entered.program true .connection actions).andThen
        (Turn.settle rounds)).map fun t => t.leaving bridge (f.hubOf task).scope) := by
    have hid : (f.turn task bridge).bridge.id = bridge := hf.named bridge
    show (f.turn task bridge).enter rounds _ = _
    rw [Turn.enter_eq, Turn.enter, Turn.onLoop_of_isCurrent (Turn.isCurrent_entered _), hid]
    rfl
  rw [hexec, hwrite, Fleet.turn_entry hf hfree rounds hbody, exec_ofActions hentered hloops,
    Fleet.turn_enter hf hfree]

end Code

end FrameBridge
