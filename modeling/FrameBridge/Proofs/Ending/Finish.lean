import FrameBridge.Proofs.Calls.Order
import FrameBridge.Proofs.Ending.Refusal
import FrameBridge.Proofs.Ending.Served
import FrameBridge.Proofs.Promises.Trace
import FrameBridge.Rehearsal.Pipe

/-!
# The end of a loop

However a loop comes to its end, what it leaves behind is the same: a closed bridge whose channel is
shut and empty, a connection that was told last of all that the transport is gone, handles that say
so, and a count of running loops that is what it was.  The commands that were not served have
failed.

* `EventLoop.IsUp` holds while a loop goes on, and `EventLoop.IsOver` after its end, whatever
  happens then.
* `EventLoop.IsUp.finish` leads from the one to the other.
* `EventLoop.LeavesBehind` is what this comes to for a loop from its start on.
* `EventLoop.ComesToEnd` tells what was done with the commands in its queue until then.
-/

namespace FrameBridge

/-- The calls of a bridge that has ended: none, or those up to the farewell, and the farewell. -/
theorem View.Ended.calls {start v : View} (h : View.Ended start v) (hnew : start.IsNew) :
    v.isEstablished = false ∧ v.story.calls = start.story.calls ∨
      v.isEstablished = true ∧ ∃ earlier,
        v.story.calls = start.story.calls ++ earlier ++ farewell start.hooks ∧
        Call.told .closed ∉ earlier := by
  obtain ⟨hactive⟩ := h
  cases hactive with
  | unborn =>
      refine .inl ⟨hnew.isEstablished, ?_⟩
      simp [View.gone, View.andCalls, Story.andCalls, hnew.isEstablished]
  | @alive s later news hnews =>
      refine .inr ⟨rfl, birth start.hooks s ++ news.map .told, rfl, ?_⟩
      exact List.count_eq_zero.mp (count_closed_alive start.hooks s hnews)

/-- Whether a loop came to its end can be decided. -/
instance LoopPhase.decidableFinished (p : LoopPhase) : Decidable (p = .finished) :=
  match p with
  | .finished => .isTrue rfl
  | .starting | .polling | .delivering _ | .stopped _ => .isFalse nofun

namespace EventLoop

variable {κ σ δ τ : Type} {start : View} {running : Int} {l l' last : EventLoop κ σ δ (Tap τ)}

/-! ### Going on, and being over -/

/-- A loop that goes on, beside as many loops as are `running`. -/
structure IsUp (start : View) (running : Int) (l : EventLoop κ σ δ (Tap τ)) : Prop where
  active : View.Active start l.turn.view
  upright : l.turn.bridge.Upright
  counted : l.setOut.hub.metrics.running.getD 0 = running + 1

/-- A loop that came to its end when it was `last`, beside as many loops as are `running`. -/
structure IsOver (start : View) (running : Int) (l last : EventLoop κ σ δ (Tap τ)) : Prop where
  phase : l.phase = .finished
  ended : View.Ended start l.turn.view
  upright : l.turn.bridge.Upright
  shut : l.turn.hub.isOpen l.id = false
  counted : l.turn.hub.metrics.running.getD 0 = running
  silent : l.turn.hub.codecCalls l.id = last.turn.hub.codecCalls last.id
  failed : ∀ c ∈ last.turn.queue, c.HasFailed l.turn.hub

/-! ### What happens meanwhile -/

/-- The use of a handle shows nothing to the application of a bridge. -/
theorem view_use (l : EventLoop κ σ δ (Tap τ)) (target : LoopId) (a : HandleAction) :
    (l.onHub (·.use target true .connection a)).turn.view = l.turn.view :=
  Turn.view_withHub ((Hub.law_story l.id (· = l.turn.view.story)).use target true .connection a
    (.of [] rfl))

theorem running_use (l : EventLoop κ σ δ (Tap τ)) (target : LoopId) (a : HandleAction) :
    (l.onHub (·.use target true .connection a)).turn.hub.metrics.running =
      l.turn.hub.metrics.running :=
  (Hub.law_tally l.id (·.running = l.turn.hub.metrics.running)).use target true .connection a
    (.of [] rfl)

theorem running_setOut (hphase : l'.phase = l.phase)
    (hrunning : l'.turn.hub.metrics.running = l.turn.hub.metrics.running) :
    l'.setOut.hub.metrics.running = l.setOut.hub.metrics.running := by
  unfold setOut
  rw [hphase]
  cases l.phase with
  | starting => exact congrArg (fun n : Option Int => some (n.getD 0 + 1)) hrunning
  | polling | delivering _ | finished | stopped _ => exact hrunning

theorem IsUp.meanwhile (h : l.IsUp start running) (hmeanwhile : l.Meanwhile l') :
    l'.IsUp start running := by
  have hcounted (hrunning : l'.turn.hub.metrics.running = l.turn.hub.metrics.running) :
      l'.setOut.hub.metrics.running.getD 0 = running + 1 := by
    rw [running_setOut hmeanwhile.phase hrunning]
    exact h.counted
  cases hmeanwhile with
  | nothing => exact h
  | use target a =>
      refine ⟨?_, h.upright, hcounted (l.running_use target a)⟩
      rw [view_use]
      exact h.active
  | shutDown | elsewhere => exact ⟨h.active, h.upright, hcounted rfl⟩
  | recode codec =>
      exact ⟨h.active, ⟨h.upright.closing, h.upright.closed, h.upright.emptied⟩, hcounted rfl⟩

theorem IsOver.meanwhile (h : l.IsOver start running last) (hmeanwhile : l.Meanwhile l') :
    l'.IsOver start running last := by
  cases hmeanwhile with
  | nothing => exact h
  | use target a =>
      have hkept {p : Hub → Prop} (L : Hub.Law (fun _ => True) (Regardless p))
          (hp : p l.turn.hub) : p (l.turn.hub.use target true .connection a) :=
        L.use target true .connection a (.of [] hp)
      refine ⟨h.phase, ?_, h.upright, hkept (Hub.law_isOpen l.id false) h.shut, ?_,
        hkept (Hub.law_codecCalls l.id _) h.silent, fun c hc => ?_⟩
      · rw [view_use]
        exact h.ended
      · rw [running_use]
        exact h.counted
      · have hrecalls := hkept (Hub.law_recalls l.turn.hub) (.refl l.turn.hub)
        exact hrecalls.isKnown (r := c.promise.abandoned) (h.failed c hc)
  | shutDown | elsewhere =>
      exact ⟨h.phase, h.ended, h.upright, h.shut, h.counted, h.silent, h.failed⟩
  | recode codec =>
      exact ⟨h.phase, h.ended, ⟨h.upright.closing, h.upright.closed, h.upright.emptied⟩, h.shut,
        h.counted, h.silent, h.failed⟩

section
variable [Transport τ]

/-- A loop whose bridge has ended is over when it let go of everything. -/
theorem isOver_finish (hended : View.Ended start last.turn.view)
    (hupright : last.turn.bridge.Upright)
    (hcounted : last.turn.hub.metrics.running.getD 0 = running + 1) :
    last.finish.IsOver start running last := by
  let ending := (last.turn.hub.notice (.loopFinished last.id)).meter Metrics.loopEnded
  have hkept {p : Hub → Prop} (L : Hub.Law (fun _ => True) (Regardless p))
      (h : p (ending.emptied last.id)) : p last.finish.turn.hub :=
    L.abandonCommands (.of (_ ++ []) h)
  refine ⟨rfl, ?_, hupright, ending.isOpen_closeMailbox last.id, ?_, ?_, ?_⟩
  · have hview : last.finish.turn.view = last.turn.view :=
      Turn.view_withHub (hkept (Hub.law_story last.id (· = last.turn.view.story)) rfl)
    rw [hview]
    exact hended
  · refine hkept (Hub.law_tally last.id (·.running.getD 0 = running)) ?_
    show last.turn.hub.metrics.running.getD 0 - 1 = running
    omega
  · exact hkept (Hub.law_codecCalls last.id _) rfl
  · exact ending.hasFailed_closeMailbox last.id

end

/-! ### Steps -/

variable [Codec κ] [Connection σ] [Decoder δ] {rounds : Nat}

/-- The bridge of a loop that is up, when it has done some work. -/
theorem IsUp.works (h : l.IsUp start running) (hnew : start.IsNew)
    (hprompt : Connection.IsPrompt σ) {cs : List Command} {t : Turn κ σ δ}
    (hworks : l.setOut.Works rounds cs t) :
    View.Active start t.view ∧ t.bridge.Upright ∧
      t.hub.metrics.running.getD 0 = running + 1 := by
  have hcounted := h.counted
  rw [← hworks.running.2] at hcounted
  obtain ⟨f, hsame⟩ := l.setOut_eq
  rw [hsame] at hworks
  exact ⟨hworks.active hnew hprompt h.active, hworks.upright h.upright, hcounted⟩

variable [Transport τ]

/-- As long as a loop goes on it is up. -/
theorem IsUp.move (h : l.IsUp start running) (hnew : start.IsNew)
    (hprompt : Connection.IsPrompt σ) {m : LoopMove κ τ}
    (hon : (l.move rounds m).isRunning = true) : (l.move rounds m).IsUp start running := by
  rcases l.move_cases rounds m with ⟨now, rfl, hstep⟩ | ⟨-, hmeanwhile⟩
  · obtain ⟨hworks, hphase⟩ := works_of_step hstep hon
    obtain ⟨hactive, hupright, hcounted⟩ := h.works hnew hprompt hworks
    refine ⟨hactive, hupright, ?_⟩
    -- A loop is counted when it starts, and this is over.
    unfold setOut
    split
    · rename_i hstarting
      exact absurd hstarting hphase
    all_goals exact hcounted
  · exact h.meanwhile hmeanwhile

theorem IsUp.moves (h : l.IsUp start running) (hnew : start.IsNew)
    (hprompt : Connection.IsPrompt σ) {ms : List (LoopMove κ τ)}
    (hon : (l.moves rounds ms).isRunning = true) : (l.moves rounds ms).IsUp start running := by
  induction ms generalizing l with
  | nil => exact h
  | cons m ms ih =>
      have hnext : (l.move rounds m).isRunning = true := isRunning_of_moves hon
      exact ih (h.move hnew hprompt hnext) hon

/-- What is over stays over, whatever happens. -/
theorem IsOver.moves (h : l.IsOver start running last) (ms : List (LoopMove κ τ)) :
    (l.moves rounds ms).IsOver start running last := by
  induction ms generalizing l with
  | nil => exact h
  | cons m ms ih =>
      rcases l.move_cases rounds m with ⟨now, rfl, hstep⟩ | ⟨-, hmeanwhile⟩
      · have hon := isRunning_of_step hstep
        rw [isRunning, h.phase] at hon
        cases hon
      · exact ih (h.meanwhile hmeanwhile)

/-- The step with which a loop comes to its end is work as in every step, after which the bridge is
told that its transport is gone and the loop lets go of everything. -/
theorem IsUp.finish (h : l.IsUp start running) (hnew : start.IsNew)
    (hprompt : Connection.IsPrompt σ) {now : Nat} (hstep : l.step rounds now = some l')
    (hphase : l'.phase = .finished) :
    ∃ last t, l' = last.finish ∧ l.setOut.Works rounds l.serves.toList t ∧
      last.turn = (t.deactivate rounds).state ∧ l'.IsOver start running last := by
  cases outcome_step hstep with
  | goesOn hon =>
      rw [isRunning, hphase] at hon
      cases hon
  | stops hstopped => cases hphase.symm.trans hstopped
  | @ends last t hworks hend hlast =>
      obtain ⟨hactive, hupright, hcounted⟩ := h.works hnew hprompt hworks
      refine ⟨last, t, rfl, hworks, hlast, isOver_finish ?_ ?_ ?_⟩
      · rw [hlast]
        exact (Turn.ended_deactivate hnew hprompt rounds hactive).1 hend
      · rw [hlast]
        exact (t.course_move rounds (.enter .deactivate)).upright hupright
      · have hkept := (t.running_move rounds (.enter .deactivate)).2
        rw [hlast]
        exact (congrArg (·.getD 0) hkept).trans hcounted

/-! ### What a loop leaves behind -/

/-- What a loop leaves behind that was made in the hub `before`, for a bridge with `hooks`.

* `closed`, `inactive`, `pending`, `flushed`: the bridge is closed, and its channel is shut and
  empty.
* `farewell`: if there is a connection it was told that the transport is gone, once and last of all;
  only the hooks of that moment came after.
* `unborn`: otherwise there was no connection at any time.
* `gone`: its handles speak of a loop that is gone, whichever other loop runs when they are used.
* `running`: as many loops run as before. -/
structure LeavesBehind (hooks : Hooks) (before : Hub) (l : EventLoop κ σ δ (Tap τ)) : Prop where
  closed : l.turn.bridge.state = .closed
  inactive : l.turn.bridge.channel.isActive = false
  pending : l.turn.bridge.channel.pending = []
  flushed : l.turn.bridge.channel.flushed = []
  farewell : l.turn.bridge.isEstablished = true → ∃ earlier,
    l.turn.hub.calls l.id = before.calls l.id ++ earlier ++ farewell hooks ∧
    Call.told .closed ∉ earlier
  unborn : l.turn.bridge.isEstablished = false → l.turn.hub.calls l.id = before.calls l.id
  gone : ∀ scope : Option Scope, (∀ s, scope = some s → s.loop ≠ l.id) →
    Hub.IsGone { l.turn.hub with scope } l.id
  running : l.turn.hub.metrics.runningLoops = before.metrics.runningLoops

omit [Codec κ] [Connection σ] [Decoder δ] [Transport τ] in
/-- A loop that is over leaves behind what it has to. -/
theorem IsOver.leavesBehind {b : Builder κ σ δ} {before : Hub}
    (h : l.IsOver (b.build before).view (before.metrics.running.getD 0) last) :
    l.LeavesBehind b.hooks before := by
  have hclosed : l.turn.bridge.state = .closed := by simpa [Turn.view] using h.ended.isClosed
  have hshut := h.upright.closed hclosed
  obtain ⟨hpending, hflushed⟩ := h.upright.emptied hshut
  have hid : l.id = (b.build before).bridge.id := View.Standing.loop (.inr h.ended)
  have hbefore : (b.build before).view.story.calls = before.calls l.id := by
    rw [hid]
    rfl
  have hcalls := h.ended.calls (b.isNew_view_build before)
  rw [hbefore] at hcalls
  refine ⟨hclosed, ?_, hpending, hflushed, fun hestablished => ?_, fun habsent => ?_,
    fun scope hs => .of_shut h.shut hs, congrArg Int.toNat h.counted⟩
  · rw [Channel.isActive, hshut, Bool.false_and]
  · rcases hcalls with ⟨habsent, -⟩ | ⟨-, hfarewell⟩
    · cases habsent.symm.trans hestablished
    · exact hfarewell
  · rcases hcalls with ⟨-, hnone⟩ | ⟨hestablished, -⟩
    · exact hnone
    · cases habsent.symm.trans hestablished

/-- How a loop that was `made` comes to its end with a step at `now`, after what happened `before`:
it is `last` when nothing is left to do but to let go of everything.

* `work`: every earlier step performed no command but the one that it took out of the queue.
* `lastWork`: neither did the last step, and the bridge was told that its transport is gone.
* `queue`: a command that was in the queue at any time was taken out since, or is in the queue of
  `last`. -/
structure ComesToEnd (rounds : Nat) (made : EventLoop κ σ δ (Tap τ))
    (before : List (LoopMove κ τ)) (now : Nat) (last : EventLoop κ σ δ (Tap τ)) : Prop where
  step : (made.moves rounds before).step rounds now = some last.finish
  work : ∀ earlier n later, before = earlier ++ .step n :: later →
    (made.moves rounds earlier).setOut.Works rounds (made.moves rounds earlier).serves.toList
      ((made.moves rounds earlier).move rounds (.step n)).turn
  lastWork : ∃ t : Turn κ σ δ,
    (made.moves rounds before).setOut.Works rounds (made.moves rounds before).serves.toList t ∧
    last.turn = (t.deactivate rounds).state
  queue : ∀ earlier later, before = earlier ++ later →
    (made.moves rounds earlier).turn.queue <+:
      (made.moves rounds earlier).served rounds (later ++ [.step now]) ++ last.turn.queue

/-- A loop that goes on until it takes its last step comes to its end as every loop does. -/
theorem comesToEnd {made : EventLoop κ σ δ (Tap τ)} {before : List (LoopMove κ τ)} {now : Nat}
    {t : Turn κ σ δ} (hon : (made.moves rounds before).isRunning = true)
    (hstep : (made.moves rounds before).step rounds now = some last.finish)
    (hworks : (made.moves rounds before).setOut.Works rounds
      (made.moves rounds before).serves.toList t)
    (hlast : last.turn = (t.deactivate rounds).state) :
    made.ComesToEnd rounds before now last := by
  have hmoves (earlier later : List (LoopMove κ τ)) :
      made.moves rounds (earlier ++ later) = (made.moves rounds earlier).moves rounds later :=
    List.foldl_append
  refine ⟨hstep, ?_, ⟨t, hworks, hlast⟩, ?_⟩
  · rintro earlier n later rfl
    rw [hmoves] at hon
    have hnext : ((made.moves rounds earlier).move rounds (.step n)).isRunning = true :=
      isRunning_of_moves (l := (made.moves rounds earlier).move rounds (.step n)) hon
    exact works_of_move hnext
  · rintro earlier later rfl
    -- The last command taken out is that of the last step, and more may come in behind until then.
    have hqueue : (made.moves rounds (earlier ++ later)).turn.queue <+:
        (made.moves rounds (earlier ++ later)).serves.toList ++ last.turn.queue := by
      rw [← queue_setOut, hlast]
      have hkept := t.queue_move rounds (.enter .deactivate)
      exact hworks.queue.trans ((List.prefix_append_right_inj _).mpr hkept)
    rw [hmoves] at hon hqueue
    refine (queue_moves hon).trans ?_
    rw [served_append, List.append_assoc]
    refine (List.prefix_append_right_inj _).mpr (hqueue.trans ?_)
    simp only [served, takes, List.append_nil]
    exact List.prefix_rfl

/-- However a loop came to its end in which no callback panicked, over a connection at which work
handed over from the input side is done at once, it leaves behind what it has to.  Every step took
at most one command out of the queue and performed no other.  The commands that were never taken out
have failed, and the codec was not called any more once there was nothing but to let go. -/
theorem leavesBehind_moves (hprompt : Connection.IsPrompt σ) (b : Builder κ σ δ) (hub : Hub)
    (transport : τ) (idle : IdleConfig) (capacity : Nat) (isSupervised : Bool) (rounds : Nat)
    (ms : List (LoopMove κ τ))
    (hfinished : (moves rounds ms (ofTurn (b.build hub) { inner := transport } idle capacity
      isSupervised)).phase = .finished) :
    let made : EventLoop κ σ δ (Tap τ) :=
      ofTurn (b.build hub) { inner := transport } idle capacity isSupervised
    let left := made.moves rounds ms
    left.LeavesBehind b.hooks hub ∧
    ∃ (before after : List (LoopMove κ τ)) (now : Nat) (last : EventLoop κ σ δ (Tap τ)),
      ms = before ++ .step now :: after ∧
      made.ComesToEnd rounds before now last ∧
      (∀ c ∈ last.turn.queue, c.HasFailed left.turn.hub) ∧
      left.turn.hub.codecCalls left.id = last.turn.hub.codecCalls last.id := by
  intro made left
  have hnew := b.isNew_view_build hub
  have hup : made.IsUp (b.build hub).view (hub.metrics.running.getD 0) :=
    ⟨.unborn, (b.coherent_build hub).toUpright, rfl⟩
  have hoff : left.isRunning = false := by rw [isRunning, hfinished]
  obtain ⟨before, now, after, l', rfl, hon, hstep, hoff', hleft⟩ := exists_lastStep rfl hoff
  have hphase : l'.phase = .finished := by
    have hkept : (l'.moves rounds after).phase = l'.phase := phase_moves hoff'
    rw [← hkept, ← hleft]
    exact hfinished
  obtain ⟨last, t, rfl, hworks, hlast, hover⟩ :=
    (hup.moves hnew hprompt hon).finish hnew hprompt hstep hphase
  have hover : left.IsOver (b.build hub).view (hub.metrics.running.getD 0) last := by
    show (made.moves rounds _).IsOver _ _ last
    rw [hleft]
    exact hover.moves after
  exact ⟨hover.leavesBehind, before, after, now, last, rfl, comesToEnd hon hstep hworks hlast,
    hover.failed, hover.silent⟩

end EventLoop

/-- The loop of a bridge whose peer sends its settings. -/
def greeted : EventLoop LineCodec (Prompt Script) ToyDecoder (Tap Pipe) :=
  .ofTurn (pinging.build {}) { inner := { inbound := { octets := Bytes.ofText "SETTINGS\n" } } }
    pinging.idle pinging.capacity false

/-- The steps of a loop up to a ping that comes together with the request to shut down, and one more
ping that comes too late. -/
def lastMoves : List (LoopMove LineCodec Pipe) :=
  List.replicate 16 (.step 0) ++
    [.use none (.ping ⟨3⟩ "left"), .shutDown, .step 1, .use none (.ping ⟨4⟩ "late")]

theorem leavesBehind_greeted :
    Connection.IsPrompt (Prompt Script) ∧ (greeted.moves 9 lastMoves).phase = .finished ∧
      (greeted.moves 9 lastMoves).turn.bridge.isEstablished = true ∧
      (greeted.moves 9 lastMoves).LeavesBehind pinging.hooks {} ∧
      ∃ last : EventLoop LineCodec (Prompt Script) ToyDecoder (Tap Pipe),
        (∀ c ∈ last.turn.queue, c.HasFailed (greeted.moves 9 lastMoves).turn.hub) ∧
        (greeted.moves 9 lastMoves).turn.hub.codecCalls ⟨0⟩ =
          last.turn.hub.codecCalls last.id := by
  have hprompt : Connection.IsPrompt (Prompt Script) := fun _ => rfl
  have hfinished : (greeted.moves 9 lastMoves).phase = .finished := by decide +kernel
  have hid : (greeted.moves 9 lastMoves).id = ⟨0⟩ := by decide +kernel
  obtain ⟨hleft, _, _, _, last, -, -, hfailed, hsilent⟩ :=
    EventLoop.leavesBehind_moves hprompt pinging {} _ _ _ _ 9 lastMoves hfinished
  exact ⟨hprompt, hfinished, by decide +kernel, hleft, last, hfailed, hid ▸ hsilent⟩

example :
    (greeted.moves 9 (lastMoves.take 18)).turn.queue.length = 1 ∧
      (greeted.moves 9 lastMoves).turn.hub.calls ⟨0⟩ =
        [.created, .told (.settings .empty), .hooked .established 0, .told .closed,
          .hooked .removed 0] ∧
      (failedIn (greeted.moves 9 lastMoves).turn.hub.journal).map (·.label) = ["late", "left"] := by
  decide +kernel

end FrameBridge
