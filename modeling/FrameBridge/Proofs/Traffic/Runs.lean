import FrameBridge.Proofs.Entry.Settled
import FrameBridge.Proofs.Traffic.Account
import FrameBridge.Proofs.Traffic.Busy

/-!
# Runs of a fleet

The account of a fleet adds up over every run.  The functions that enter a bridge are such runs: what
they do in the scope of the loop is one step after the other, an entry that returns leaves the loop
with everything settled, and an entry that does not aborts.

* `Fleet.Works` says that a bridge gets to some state by a run, without a loop entered or left.
* `Fleet.Visits` says that what a task does is a run after which it is back on its loops.
* `Fleet.runs_move` says that every way into a bridge is a run.
-/

namespace FrameBridge.Fleet

variable {κ σ δ : Type} {f g g' : Fleet κ σ δ} {tr tr' es : List Traffic}

/-! ### Entering and leaving -/

theorem tasks_enter (f : Fleet κ σ δ) (task : Nat) (loop : LoopId) :
    (f.enter task loop).tasks task = loop :: f.tasks task :=
  Function.update_self ..

theorem turn_enter (hf : f.IsSound) {loop : LoopId} (hfree : ¬ f.IsRunning loop) (task : Nat) :
    (f.enter task loop).turn task loop = (f.turn task loop).entered := by
  have hid : (f.bridges loop).id = loop := hf.named loop
  have hcurrent : (f.hubOf task).isCurrent loop = false := by
    cases htasks : f.tasks task with
    | nil => simp [Hub.isCurrent, hubOf, scopeOf, htasks]
    | cons l outer =>
        have hne : l ≠ loop := by
          rintro rfl
          exact hfree (isRunning_of_tasks htasks)
        simpa [Hub.isCurrent, hubOf, scopeOf, htasks] using hne
  have henter : (f.hubOf task).enter loop = { f.hub with scope := some ⟨loop, []⟩ } := by
    rw [Hub.enter, hcurrent]
    rfl
  show _ = (⟨f.bridges loop, (f.hubOf task).enter (f.bridges loop).id⟩ : Turn κ σ δ)
  rw [hid, henter]
  simp [turn, hubOf, scopeOf, enter]

/-- A task that leaves its innermost loop is back in the scope of the next one. -/
theorem scope_leave (hf : f.IsSound) {task : Nat} {loop : LoopId} {outer : List LoopId}
    (h : f.tasks task = loop :: outer) :
    ((f.leave task loop outer).hubOf task).scope = f.scopeOf outer := by
  have houter : loop ∉ outer := (List.nodup_cons.mp (h ▸ hf.nodup task)).1
  have htasks : (f.leave task loop outer).tasks task = outer := Function.update_self ..
  show (f.leave task loop outer).scopeOf ((f.leave task loop outer).tasks task) = _
  rw [htasks]
  refine scopeOf_congr fun l hl => Function.update_of_ne ?_ ..
  rintro rfl
  exact houter hl

theorem turn_leave (hf : f.IsSound) {task : Nat} {loop : LoopId} {outer : List LoopId}
    (h : f.tasks task = loop :: outer) :
    (f.leave task loop outer).turn task loop =
      (f.turn task loop).leaving loop (f.scopeOf outer) := by
  have houter : loop ∉ outer := (List.nodup_cons.mp (h ▸ hf.nodup task)).1
  have hbefore : (f.leave task loop outer).hub.scope = f.scopeOf outer :=
    (quiet_leave hf.isMute h houter).1.scope
  have hscope := scope_leave hf h
  have hhub : (f.leave task loop outer).hubOf task = (f.leave task loop outer).hub := by
    have hsame : { (f.leave task loop outer).hub with
        scope := ((f.leave task loop outer).hubOf task).scope } =
        (f.leave task loop outer).hub := by
      rw [hscope, ← hbefore]
    exact hsame
  show (⟨f.bridges loop, (f.leave task loop outer).hubOf task⟩ : Turn κ σ δ) = _
  rw [hhub]
  rfl

/-! ### Runs -/

variable [Codec κ]

/-- One step after the other, each to a state with `P`. -/
inductive RunsIn (P : Fleet κ σ δ → Prop) (f : Fleet κ σ δ) :
    List Traffic → Fleet κ σ δ → Prop where
  | refl : RunsIn P f [] f
  | step {tr es : List Traffic} {g g' : Fleet κ σ δ} (h : RunsIn P f tr g) (hs : g.Step es g')
      (hP : P g') : RunsIn P f (tr ++ es) g'

/-- One step after the other, of any tasks and drivers. -/
abbrev Runs : Fleet κ σ δ → List Traffic → Fleet κ σ δ → Prop := RunsIn fun _ => True

namespace RunsIn

variable {P : Fleet κ σ δ → Prop}

theorem isSound (h : RunsIn P f tr g) (hf : f.IsSound) : g.IsSound := by
  induction h with
  | refl => exact hf
  | step _ hs _ ih => exact isSound_step ih hs

/-- The account of a run is that of its steps. -/
theorem conveys (h : RunsIn P f tr g) (hf : f.IsSound) : f.Conveys tr g := by
  induction h with
  | refl => exact .refl f
  | step h hs _ ih => exact ih.trans (conveys_step (h.isSound hf) hs)

/-- The frames of the commands that a bridge performs and applies, other than those that it refuses,
are among the calls of its codec, in the order of the run. -/
theorem calls (h : RunsIn P f tr g) (hf : f.IsSound) (b : LoopId) :
    ∃ made, g.hub.codecCalls b = f.hub.codecCalls b ++ made ∧
      (tr.filterMap (Traffic.encoded? b)).Sublist (made.filterMap CodecCall.encoded?) := by
  induction h with
  | refl => exact ⟨[], (List.append_nil _).symm, List.nil_sublist _⟩
  | step h hs _ ih =>
      obtain ⟨made, hmade, hsub⟩ := ih
      obtain ⟨more, hmore, hsub'⟩ := calls_step (h.isSound hf) hs b
      refine ⟨made ++ more, ?_, ?_⟩
      · rw [hmore, hmade, List.append_assoc]
      · rw [List.filterMap_append, List.filterMap_append]
        exact hsub.append hsub'

/-- Where each writer is used on its own loop only, all is performed and applied by the bridge that it
is for. -/
theorem own (h : RunsIn P f tr g) (hf : f.IsSound) (hown : ∀ e ∈ tr, e.IsOwn) {b l : LoopId}
    {c : Command} {v : Verdict} (hc : .performed b l c v ∈ tr ∨ .applied b l c v ∈ tr) : b = l := by
  rcases hc with hc | hc
  · have hused : .used b l ∈ tr := by
      clear hown
      induction h with
      | refl => cases hc
      | step h hs _ ih =>
          rcases List.mem_append.mp hc with hc | hc
          · exact List.mem_append_left _ (ih hc)
          · exact List.mem_append_right _ (used_of_performed (h.isSound hf) hs hc)
    exact hown _ hused
  · exact hown _ hc

theorem last (h : f.Runs tr g) (hs : g.Step es g') : f.Runs (tr ++ es) g' := h.step hs trivial

theorem trans (h : f.Runs tr g) (h' : g.Runs tr' g') : f.Runs (tr ++ tr') g' := by
  induction h' with
  | refl =>
      rw [List.append_nil]
      exact h
  | step _ hs _ ih =>
      rw [← List.append_assoc]
      exact ih.last hs

end RunsIn

/-! ### Nested loops -/

/-- A task runs a loop inside of the `outer` ones. -/
def IsInside (task : Nat) (outer : List LoopId) (f : Fleet κ σ δ) : Prop :=
  ∃ loop inner, f.tasks task = loop :: (inner ++ outer)

/-- While a task runs another loop inside, nothing joins or leaves what waits on the outer one. -/
theorem inline_of_isInside {task : Nat} {loop : LoopId} {outer : List LoopId} (hf : f.IsSound)
    (h : f.IsInside task (loop :: outer)) (hs : f.Step es g) : g.inline loop = f.inline loop := by
  obtain ⟨inner, between, htasks⟩ := h
  rcases inline_cases hf hs loop with hsame | ⟨i, rest, hi, -⟩
  · exact hsame
  · -- The loop would be both the innermost one and further out.
    have hmem : loop ∈ f.tasks task := by
      rw [htasks]
      simp
    have hsame : i = task := hf.alone (hi ▸ List.mem_cons_self) hmem
    have hnodup := hf.nodup task
    rw [← hsame, hi] at htasks
    rw [← hsame, hi] at hnodup
    cases htasks
    exact absurd (List.mem_append_right _ List.mem_cons_self) (List.nodup_cons.mp hnodup).1

/-- A task that enters another loop leaves what waits on its own one as it is. -/
theorem inline_of_entering {task : Nat} {loop : LoopId} {outer : List LoopId} (hf : f.IsSound)
    (h : f.tasks task = loop :: outer) (hs : f.Step es g) (hin : g.IsInside task (loop :: outer)) :
    g.inline loop = f.inline loop := by
  obtain ⟨inner, between, htasks⟩ := hin
  rcases inline_cases hf hs loop with hsame | ⟨i, rest, hi, hafter⟩
  · exact hsame
  · have hi' : i = task := hf.alone (hi ▸ List.mem_cons_self) (h ▸ List.mem_cons_self)
    subst hi'
    have hrest : rest = outer := by
      rw [h] at hi
      cases hi
      rfl
    have hlength := congrArg List.length htasks
    rcases hafter with hafter | hafter
    · rw [hafter, hrest] at hlength
      simp at hlength
      omega
    · rw [hafter, hrest] at hlength
      simp at hlength
      omega

/-- Whatever is done inside of other loops, the scope that a task is back in is the one it left. -/
theorem scope_of_back {task : Nat} (hf : f.IsSound)
    (hrun : f.RunsIn (IsInside task (f.tasks task)) tr g) (hinside : g.IsInside task (f.tasks task))
    (hs : g.Step es g') (hback : g'.tasks task = f.tasks task) :
    (g'.hubOf task).scope = (f.hubOf task).scope := by
  show g'.scopeOf (g'.tasks task) = f.scopeOf (f.tasks task)
  rw [hback]
  cases htasks : f.tasks task with
  | nil => rfl
  | cons loop outer =>
      rw [htasks] at hrun hinside
      have hkept : g.inline loop = f.inline loop := by
        clear hs hback hinside
        induction hrun with
        | refl => rfl
        | step h hs hP ih =>
            refine Eq.trans ?_ ih
            cases h with
            | refl => exact inline_of_entering hf htasks hs hP
            | step h hs' hP' => exact inline_of_isInside ((h.step hs' hP').isSound hf) hP' hs
      have hlast : g'.inline loop = f.inline loop :=
        (inline_of_isInside (hrun.isSound hf) hinside hs).trans hkept
      simp only [scopeOf, List.head?_cons, Option.map_some, hlast]

/-- A loop that a task entered is left again, whatever was done inside.  Nothing is aborted if all is
settled then. -/
theorem runs_leave {loop : LoopId} (hfree : ¬ f.IsRunning loop) {task : Nat}
    (hrun : (f.enter task loop).Runs tr g) (htasks : g.tasks = (f.enter task loop).tasks) :
    ∃ tr', f.Runs tr' (g.leave task loop (f.tasks task)) ∧
      (g.leave task loop (f.tasks task)).tasks = f.tasks ∧
      ((∀ e ∈ tr, e.IsOwn) → ∀ e ∈ tr', e.IsOwn) ∧
      ((g.turn task loop).isSettled = true → (∀ l, .aborted l ∉ tr) → ∀ l, .aborted l ∉ tr') := by
  have hrun' : f.Runs ([] ++ tr) g := (RunsIn.refl.last (.enter task loop hfree)).trans hrun
  have hg : g.tasks task = loop :: f.tasks task := by
    rw [htasks]
    exact f.tasks_enter task loop
  have hback : (g.leave task loop (f.tasks task)).tasks = f.tasks := by
    show Function.update g.tasks task _ = _
    rw [htasks]
    show Function.update (Function.update f.tasks task _) task _ = _
    rw [Function.update_idem, Function.update_eq_self]
  by_cases hsettled : (g.turn task loop).isSettled = true
  · refine ⟨_, hrun'.last (.back task hg hsettled), hback, fun hown => ?_, fun _ hkept => ?_⟩
    · simpa using hown
    · simpa using hkept
  · refine ⟨_, hrun'.last (.abort task hg), hback, fun hown e he => ?_,
      fun hsettled' => absurd hsettled' hsettled⟩
    rcases List.mem_append.mp he with he | he
    · exact hown e he
    · rcases List.mem_cons.mp he with rfl | he
      · trivial
      · obtain ⟨c, -, rfl⟩ := List.mem_map.mp he
        trivial

/-! ### Work -/

/-- A bridge gets to some state in the hands of a task that does not enter or leave a loop, by a run
in which no other bridge changes, and after which these commands are `held`. -/
structure Works (f : Fleet κ σ δ) (task : Nat) (bridge : LoopId) (held : LoopId → List Command)
    (t : Turn κ σ δ) : Prop where
  named : t.bridge.id = bridge
  scope : t.hub.scope.map (·.loop) = (f.tasks task).head?
  run : ∃ tr, f.Runs tr ((f.put t).withHeld held) ∧ (∀ l, .aborted l ∉ tr) ∧
    ((∀ l ∈ (f.tasks task).head?, l = bridge) → ∀ e ∈ tr, e.IsOwn)

namespace Works

variable {task : Nat} {loop bridge : LoopId} {outer : List LoopId} {held : LoopId → List Command}
  {t t' : Turn κ σ δ}

theorem turn_eq (hworks : f.Works task bridge held t) :
    ((f.put t).withHeld held).turn task bridge = t :=
  turn_put hworks.named hworks.scope

theorem hubOf_eq (hworks : f.Works task bridge held t) :
    ((f.put t).withHeld held).hubOf task = t.hub :=
  congrArg Turn.hub hworks.turn_eq

/-- One more step leads on to another state of the bridge. -/
theorem step (hworks : f.Works task bridge held t) {held' : LoopId → List Command}
    (hs : ((f.put t).withHeld held).Step es ((f.put t').withHeld held'))
    (hid : t'.bridge.id = t.bridge.id) (hscope : t'.hub.scope.map (·.loop) = t.hub.scope.map (·.loop))
    (hkept : ∀ l, .aborted l ∉ es)
    (hown : (∀ l ∈ (f.tasks task).head?, l = bridge) → ∀ e ∈ es, e.IsOwn) :
    f.Works task bridge held' t' := by
  obtain ⟨tr, hrun, hkept', hown'⟩ := hworks.run
  refine ⟨hid.trans hworks.named, hscope.trans hworks.scope, tr ++ es, hrun.last hs, fun l hl => ?_,
    fun hloop e he => ?_⟩
  · exact (List.mem_append.mp hl).elim (hkept' l) (hkept l)
  · exact (List.mem_append.mp he).elim (hown' hloop e) (hown hloop e)

theorem isMute (hf : f.IsSound) (hworks : f.Works task bridge held t) : t.hub.IsMute := by
  obtain ⟨tr, hrun, -⟩ := hworks.run
  exact (hrun.isSound hf).isMute

theorem refl (hf : f.IsSound) (task : Nat) (bridge : LoopId) :
    f.Works task bridge f.held (f.turn task bridge) where
  named := hf.named bridge
  scope := loop_scopeOf f _
  run := ⟨_, RunsIn.refl.last (.quiet task (.refl _)), by simp, by simp⟩

/-- What is no traffic leads on. -/
theorem quiet (hworks : f.Works task bridge held t) (hid : t'.bridge.id = t.bridge.id)
    (hquiet : t.hub.Quiet t'.hub) : f.Works task bridge held t' := by
  have hscope := congrArg (Option.map (·.loop)) hquiet.scope
  have hs : ((f.put t).withHeld held).Step [] (((f.put t).withHeld held).put t') :=
    .quiet task (hworks.hubOf_eq ▸ hquiet)
  rw [put_put held hid hscope] at hs
  exact hworks.step hs hid hscope (by simp) (by simp)

/-- What waits inline is performed. -/
theorem catchUp (hf : f.IsSound) (hworks : f.Works task bridge held t) :
    f.Works task bridge held t.catchUp := by
  cases htasks : f.tasks task with
  | nil =>
      -- No loop runs, so that nothing waits.
      have hnone : t.outlet.hub.scope = none := by
        have hscope := hworks.scope
        rw [htasks] at hscope
        exact Option.map_eq_none_iff.mp hscope
      have hsame : t.catchUp = t := congrArg t.withOutlet (Outlet.catchUp_of_none hnone)
      rwa [hsame]
  | cons loop outer =>
      obtain ⟨tr, hrun, -⟩ := hworks.run
      have hsound := hrun.isSound hf
      have htasks' : ((f.put t).withHeld held).tasks task = loop :: outer := htasks
      have hcaught : t.catchUp = ((f.put t).withHeld held).caughtUp task bridge := by
        rw [← catchUp_turn hsound.isMute htasks' bridge, hworks.turn_eq]
      have hid : t.catchUp.bridge.id = t.bridge.id := by
        rw [hcaught, id_caughtUp hsound htasks', hworks.named]
      have hscope : t.catchUp.hub.scope.map (·.loop) = t.hub.scope.map (·.loop) := by
        rw [hcaught, (quiet_caughtUp hsound.isMute htasks' bridge).scope, hworks.scope, htasks]
        rfl
      have hs := Step.catchUp task bridge htasks'
      rw [← hcaught, put_put held hid hscope] at hs
      refine hworks.step hs hid hscope (fun l hl => ?_) fun hloop e he => ?_
      · rcases mem_catchUp hsound hl with heq | ⟨-, _, -, _, heq⟩ <;> cases heq
      · rcases mem_catchUp hsound he with rfl | ⟨-, _, -, _, rfl⟩
        · exact (hloop loop (by simp [htasks])).symm
        · trivial

/-- A command is sent. -/
theorem send (hf : f.IsSound) (hworks : f.Works task bridge held t) (target : LoopId)
    (offLoop : Bool) (c : Command) :
    f.Works task bridge held { t with hub := t.hub.send target offLoop c } := by
  obtain ⟨tr, hrun, -⟩ := hworks.run
  have hscope := Hub.scope_send (hworks.isMute hf) target offLoop c
  have hput : ((f.put t).withHeld held).withHub (t.hub.send target offLoop c) =
      (f.put { t with hub := t.hub.send target offLoop c }).withHeld held := by
    have hbridge : ((f.put t).withHeld held).bridges bridge = t.bridge :=
      congrArg Turn.bridge hworks.turn_eq
    rw [← put_bridge (hrun.isSound hf) bridge, hbridge]
    exact put_put held rfl hscope
  have hs := Step.send (f := (f.put t).withHeld held) task target offLoop c
  rw [hworks.hubOf_eq, hput] at hs
  exact hworks.step hs rfl hscope (by simp) (by simp [Traffic.IsOwn])

/-- A command that was taken out of the queue is applied. -/
theorem apply (hf : f.IsSound) (h : f.tasks task = bridge :: outer)
    (hworks : f.Works task bridge held t) {c : Command} (hc : c ∈ held bridge) :
    f.Works task bridge (Function.update held bridge ((held bridge).erase c))
      (t.onOutlet (·.perform c)) := by
  obtain ⟨tr, hrun, -⟩ := hworks.run
  obtain ⟨hid, hquiet⟩ := quiet_perform (hrun.isSound hf).isMute task bridge c
  have hs := Step.apply (f := (f.put t).withHeld held) task h hc
  have hid' : (t.onOutlet (·.perform c)).bridge.id = t.bridge.id := by
    rw [← hworks.turn_eq, hid]
    rfl
  have hscope : (t.onOutlet (·.perform c)).hub.scope.map (·.loop) = t.hub.scope.map (·.loop) := by
    rw [← hworks.turn_eq, hquiet.scope]
    rfl
  have hput := put_put (f := f) held hid' hscope
  rw [hworks.turn_eq, hput] at hs
  exact hworks.step hs hid' hscope (by simp) (by simp [Traffic.IsOwn])

/-- Whoever uses a handle sends one command at most. -/
theorem use (hf : f.IsSound) (hworks : f.Works task bridge held t) (target : LoopId)
    (offLoop : Bool) (now : StreamId) (a : HandleAction) :
    f.Works task bridge held { t with hub := t.hub.use target offLoop now a } := by
  rcases Hub.use_cases (hworks.isMute hf) target offLoop now a with ⟨h', c, hquiet, huse⟩ | hquiet
  · rw [huse]
    have hprepared : f.Works task bridge held { t with hub := h' } := hworks.quiet rfl hquiet
    exact hprepared.send hf target offLoop c
  · exact hworks.quiet rfl hquiet

/-- Whatever a bridge does in the hands of a task is a run of the fleet. -/
theorem rule (hf : f.IsSound) : Turn.BusyRule (f.Works task bridge held) where
  isMute hworks := hworks.isMute hf
  quiet hworks := hworks.quiet
  catchUp hworks := hworks.catchUp hf
  use target offLoop now a _ hworks := hworks.use hf target offLoop now a

end Works

/-! ### Visits -/

section Visiting

variable {task : Nat} {own own' : Prop} {r : Run (Fleet κ σ δ)}

/-- What a task does is a run of the fleet after which it is on the same loops, with the same
commands waiting on all but the innermost one.  Writers are used on their own loops only, if it is
`own`. -/
structure Visits (f : Fleet κ σ δ) (task : Nat) (own : Prop) (r : Run (Fleet κ σ δ)) : Prop where
  tasks : r.state.tasks = f.tasks
  inline : ∀ l ∈ f.tasks task, (f.tasks task).head? ≠ some l → r.state.inline l = f.inline l
  run : ∃ tr, f.Runs tr r.state ∧ (r.stop = none → ∀ l, .aborted l ∉ tr) ∧
    (own → ∀ e ∈ tr, e.IsOwn)

/-- What a bridge does in the hands of a task. -/
theorem Works.visits {bridge : LoopId} {held : LoopId → List Command} {t : Turn κ σ δ}
    (h : f.Works task bridge held t) (stop : Option Stop) :
    f.Visits task (∀ l ∈ (f.tasks task).head?, l = bridge) ⟨(f.put t).withHeld held, stop⟩ where
  tasks := rfl
  inline _ _ hl := inline_put_of_ne h.scope hl
  run := by
    obtain ⟨tr, hrun, hkept, hown⟩ := h.run
    exact ⟨tr, hrun, fun _ => hkept, hown⟩

namespace Visits

theorem isSound (h : f.Visits task own r) (hf : f.IsSound) : r.state.IsSound := by
  obtain ⟨tr, hrun, -⟩ := h.run
  exact hrun.isSound hf

theorem stopped (f : Fleet κ σ δ) (task : Nat) (stop : Option Stop) :
    f.Visits task True ⟨f, stop⟩ where
  tasks := rfl
  inline _ _ _ := rfl
  run := ⟨[], .refl, by simp, by simp⟩

theorem mono (h : f.Visits task own r) (hown : own' → own) : f.Visits task own' r where
  tasks := h.tasks
  inline := h.inline
  run := by
    obtain ⟨tr, hrun, hkept, hall⟩ := h.run
    exact ⟨tr, hrun, hkept, fun h => hall (hown h)⟩

/-- One thing is done after the other. -/
theorem andThen (h : f.Visits task own r) {next : Fleet κ σ δ → Run (Fleet κ σ δ)}
    (hnext : r.state.Visits task own (next r.state)) : f.Visits task own (r.andThen next) := by
  obtain ⟨g, stop⟩ := r
  cases stop with
  | some why => exact h
  | none =>
      obtain ⟨tr, hrun, hkept, hown⟩ := h.run
      obtain ⟨tr', hrun', hkept', hown'⟩ := hnext.run
      refine ⟨hnext.tasks.trans h.tasks, fun l hl hne => ?_, tr ++ tr', hrun.trans hrun',
        fun hend l hl => ?_, fun ho e he => ?_⟩
      · have htasks : g.tasks = f.tasks := h.tasks
        exact (hnext.inline l (htasks ▸ hl) (htasks ▸ hne)).trans (h.inline l hl hne)
      · exact (List.mem_append.mp hl).elim (hkept rfl l) (hkept' hend l)
      · exact (List.mem_append.mp he).elim (hown ho e) (hown' ho e)

/-- What goes on inside of an entry leaves all that waits on the outer loops as it is. -/
theorem inline_of_entered {bridge : LoopId} (hfree : ¬ f.IsRunning bridge)
    (h : (f.enter task bridge).Visits task own r) {l : LoopId} (hl : l ∈ f.tasks task) :
    r.state.inline l = f.inline l := by
  have hne : l ≠ bridge := by
    rintro rfl
    exact hfree ⟨task, hl⟩
  have hloops := f.tasks_enter task bridge
  calc r.state.inline l
      = (f.enter task bridge).inline l := by
        refine h.inline l ?_ ?_
        · rw [hloops]
          exact List.mem_cons_of_mem bridge hl
        · rw [hloops]
          simpa using hne.symm
    _ = f.inline l := Function.update_of_ne hne ..

/-- A bridge that is left is back in the scope that the task had before. -/
theorem turn_leave (hf : f.IsSound) {bridge : LoopId} (hfree : ¬ f.IsRunning bridge)
    (h : (f.enter task bridge).Visits task own r) :
    (r.state.leave task bridge (f.tasks task)).turn task bridge =
      (r.state.turn task bridge).leaving bridge (f.hubOf task).scope := by
  have hsound := h.isSound (isSound_step hf (.enter task bridge hfree))
  have htasks := (congrFun h.tasks task).trans (f.tasks_enter task bridge)
  have hscope : r.state.scopeOf (f.tasks task) = (f.hubOf task).scope :=
    scopeOf_congr fun l hl => h.inline_of_entered hfree hl
  rw [Fleet.turn_leave hsound htasks, hscope]

/-- A loop is entered and left.  Nothing that waited on the other loops of the task has changed
then. -/
theorem leave {bridge : LoopId} (hfree : ¬ f.IsRunning bridge)
    (h : (f.enter task bridge).Visits task own r)
    (hsettled : r.stop = none → (r.state.turn task bridge).isSettled = true) :
    f.Visits task own (r.map fun g => g.leave task bridge (f.tasks task)) ∧
      ∀ l ∈ f.tasks task,
        (r.state.leave task bridge (f.tasks task)).inline l = f.inline l := by
  obtain ⟨tr, hrun, hkept, hown⟩ := h.run
  obtain ⟨tr', hrun', hback, hown', hkept'⟩ := runs_leave hfree hrun h.tasks
  have hinline (l : LoopId) (hl : l ∈ f.tasks task) :
      (r.state.leave task bridge (f.tasks task)).inline l = f.inline l := by
    have hne : l ≠ bridge := by
      rintro rfl
      exact hfree ⟨task, hl⟩
    have hleft : (r.state.leave task bridge (f.tasks task)).inline l = r.state.inline l :=
      Function.update_of_ne hne ..
    exact hleft.trans (h.inline_of_entered hfree hl)
  exact ⟨⟨hback, fun l hl _ => hinline l hl, tr', hrun',
    fun hend => hkept' (hsettled hend) (hkept hend), fun ho => hown' (hown ho)⟩, hinline⟩

end Visits

end Visiting

/-! ### Entries -/

/-- What a bridge does in the scope of its loop when it is entered is a run of the fleet. -/
theorem works_move (hf : f.IsSound) {task : Nat} {loop : LoopId} {outer : List LoopId}
    [Connection σ] [Decoder δ] (h : f.tasks task = loop :: outer) (rounds : Nat) {m : Move}
    (hm : ∀ c, m = .apply c → c ∈ f.held loop) :
    ∃ held, f.Works task loop held ((f.turn task loop).move rounds m).state := by
  have hcurrent : (f.turn task loop).hub.isCurrent (f.turn task loop).bridge.id = true := by
    have hid : (f.turn task loop).bridge.id = loop := hf.named loop
    rw [hid]
    simp [turn, Hub.isCurrent, hubOf, scopeOf, h]
  have hstart := Works.refl hf task loop
  cases m with
  | enter e =>
      exact ⟨_, (Works.rule hf).chain (Turn.chain_move rounds (.enter e) hcurrent) hstart⟩
  | apply c =>
      have happlied := (hstart.catchUp hf).apply hf h (hm c rfl)
      have hmove : (f.turn task loop).move rounds (.apply c) =
          ((f.turn task loop).catchUp.onOutlet (·.perform c)).settle rounds := by
        simp only [Turn.move, Turn.apply, Turn.enter]
        rw [Turn.onLoop_of_isCurrent hcurrent]
        rfl
      rw [hmove]
      exact ⟨_, (Works.rule hf).chain (Turn.chain_settle rounds _) happlied⟩

variable [Connection σ] [Decoder δ]

/-- Whatever a bridge that is entered does, the codec of no other bridge is called. -/
theorem codecCalls_move (hf : f.IsSound) (task : Nat) {loop other : LoopId} (hne : other ≠ loop)
    (rounds : Nat) (m : Move) :
    ((f.turn task loop).move rounds m).state.hub.codecCalls other = f.hub.codecCalls other := by
  have S := Outlet.steady_elsewhere (κ := κ) hne.symm (f.hub.codecCalls other)
  exact (S.move (fun _ _ hp => hp) rounds m (t := f.turn task loop) ⟨hf.named loop, rfl⟩).2

/-- A bridge that no task runs is entered and left by a run of the fleet in which no other bridge
changes, and after which the task is back in the scope that it had before.  Only its own writer is
used there.  If the entry returns nothing is aborted. -/
theorem runs_move (hf : f.IsSound) {loop : LoopId} (hfree : ¬ f.IsRunning loop) (task rounds : Nat)
    {m : Move} (hm : ∀ c, m = .apply c → c ∈ f.held loop) :
    ∃ tr g, f.Runs tr g ∧ (∀ e ∈ tr, e.IsOwn) ∧ g.tasks = f.tasks ∧
      (g.hubOf task).scope = (f.hubOf task).scope ∧
      g.turn task loop = ((f.turn task loop).move rounds m).state ∧
      (∀ l, l ≠ loop → g.bridges l = f.bridges l) ∧
      (((f.turn task loop).move rounds m).stop = none → ∀ l, .aborted l ∉ tr) := by
  by_cases hsettles : m.Settles (f.bridges loop).state
  · -- The entry runs in the scope of the loop, and leaves it at the end.
    have hsound := isSound_step hf (.enter task loop hfree)
    have htasks := f.tasks_enter task loop
    obtain ⟨held, hworks⟩ := works_move hsound htasks rounds (m := m) hm
    rw [turn_enter hf hfree task] at hworks
    have hturn := hworks.turn_eq
    have hvisits := hworks.visits ((f.turn task loop).entered.move rounds m).stop
    obtain ⟨hleft, hinline⟩ := hvisits.leave hfree fun hend => by
      rw [hturn]
      exact Turn.isSettled_move rounds hsettles (f.turn task loop).isCurrent_entered hend
    obtain ⟨tr, hrun, hkept, hown⟩ := hleft.run
    refine ⟨tr, _, hrun, hown (by simp [htasks]), hleft.tasks, ?_, ?_,
      fun l hl => bridges_put hworks.named hl, fun hend => hkept ?_⟩
    · exact (congrArg _ (congrFun hleft.tasks task)).trans (scopeOf_congr hinline)
    · have hid : (f.turn task loop).bridge.id = loop := hf.named loop
      refine (hvisits.turn_leave hf hfree).trans ?_
      rw [hturn, Turn.move_eq rounds (f.turn task loop), Run.state_map, hid]
      rfl
    · rw [Turn.move_eq] at hend
      exact hend
  · -- Asking for a close enters no scope, and a closed bridge is not entered at all.
    cases m with
    | apply c => exact absurd trivial hsettles
    | enter e =>
        cases e with
        | close =>
            have hm' : (f.hubOf task).IsMute := hf.isMute
            have hquiet : (f.hubOf task).Quiet (f.turn task loop).close.hub :=
              ((Outlet.mild_quiet (κ := κ) loop hm').close (o := (f.turn task loop).outlet)
                ⟨hf.named loop, .refl _⟩).2
            have hsame : (f.withHub (f.turn task loop).close.hub).inline = f.inline :=
              inline_withHub (f.tasks task) hquiet.scope
            refine ⟨_, _, RunsIn.refl.last (.quiet task hquiet), by simp, rfl, ?_,
              turn_put (hf.named loop) ?_, fun l hl => bridges_put (hf.named loop) hl,
              fun _ _ => List.not_mem_nil⟩
            · exact scopeOf_congr fun l _ => congrFun hsame l
            · rw [hquiet.scope]
              exact loop_scopeOf f _
        | deactivate =>
            have hclosed : (f.turn task loop).bridge.state = .closed := not_not.mp hsettles
            refine ⟨[], f, .refl, by simp, rfl, rfl, ?_, fun _ _ => rfl,
              fun _ _ => List.not_mem_nil⟩
            simp only [Turn.move, Turn.enterBy, Turn.deactivate, if_pos hclosed]
            rfl
        | activate | decode | event | write | withConnection | idle | exception =>
            exact absurd trivial hsettles

end FrameBridge.Fleet
