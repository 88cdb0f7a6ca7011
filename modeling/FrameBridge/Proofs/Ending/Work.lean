import FrameBridge.Loop.EventLoop
import FrameBridge.Proofs.Law.Rule

/-!
# The work of a loop

A step of a loop consists of a few kinds of work on its bridge, and then the loop goes on, comes to
its end, or is stopped by application code.

* `Turn.Works` lists the kinds of work, with the commands that are taken out of the queue for it.
* `EventLoop.Outcome` lists what a step comes to, and `EventLoop.outcome_step` says that there is
  nothing else.
-/

namespace FrameBridge

variable {κ σ δ τ : Type} [Codec κ] [Connection σ] [Decoder δ]

/-- What a loop does to its bridge before it leaves, and the commands that it takes out of the queue
for that.  A command is performed when it is taken out, and no other is. -/
inductive Turn.Works (rounds : Nat) (t : Turn κ σ δ) : List Command → Turn κ σ δ → Prop
  | refl : Works rounds t [] t
  | notice {cs : List Command} {t' : Turn κ σ δ} (n : Notice) (h : Works rounds t cs t') :
      Works rounds t cs (t'.notice n)
  /-- The bridge is entered without code from outside, and the application does not panic. -/
  | enter {cs : List Command} {t' : Turn κ σ δ} {e : Entrance} (he : e ≠ .deactivate)
      (hactions : e.actions = []) (hend : (t'.enterBy rounds e).stop = none)
      (h : Works rounds t cs t') : Works rounds t cs (t'.enterBy rounds e).state
  /-- The oldest command is taken out of the queue and performed. -/
  | serve {cs : List Command} {t' : Turn κ σ δ} {c : Command} {hub : Hub}
      (hnext : t'.hub.nextCommand t'.bridge.id = some (c, hub))
      (hend : (Turn.apply rounds { t' with hub } c).stop = none) (h : Works rounds t cs t') :
      Works rounds t (cs ++ [c]) (Turn.apply rounds { t' with hub } c).state
  /-- The flushed frames are taken off the channel. -/
  | take {cs : List Command} {t' : Turn κ σ δ} (h : Works rounds t cs t') :
      Works rounds t cs { t' with
        bridge := { t'.bridge with channel := t'.bridge.channel.takeFlushed.2 } }
  /-- Writes end. -/
  | resolve {cs : List Command} {t' : Turn κ σ δ} (rs : List Resolution)
      (h : Works rounds t cs t') : Works rounds t cs { t' with hub := t'.hub.resolveAll rs }

namespace EventLoop

/-- What some work of a loop comes to. -/
inductive Outcome [Transport τ] (rounds : Nat) (t : Turn κ σ δ) (cs : List Command) :
    EventLoop κ σ δ τ → Prop
  | goesOn {l : EventLoop κ σ δ τ} (hrunning : l.isRunning = true) (hphase : l.phase ≠ .starting)
      (h : t.Works rounds cs l.turn) : Outcome rounds t cs l
  /-- The bridge was told that its transport is gone, and the loop lets go of everything. -/
  | ends {last : EventLoop κ σ δ τ} {t' : Turn κ σ δ} (h : t.Works rounds cs t')
      (hend : (t'.deactivate rounds).stop = none)
      (hlast : last.turn = (t'.deactivate rounds).state) :
      Outcome rounds t cs last.finish
  | stops {l : EventLoop κ σ δ τ} {why : Stop} (hphase : l.phase = .stopped why) :
      Outcome rounds t cs l

/-- The bridge of a loop as the next step finds it. -/
def setOut (l : EventLoop κ σ δ τ) : Turn κ σ δ :=
  match l.phase with
  | .starting => l.turn.meter Metrics.loopStarted
  | .polling | .delivering _ | .finished | .stopped _ => l.turn

omit [Codec κ] [Connection σ] [Decoder δ] in
/-- Before a step only a counter is changed. -/
theorem setOut_eq (l : EventLoop κ σ δ τ) : ∃ f, l.setOut = l.turn.meter f := by
  unfold setOut
  split
  · exact ⟨_, rfl⟩
  all_goals exact ⟨fun m => m, rfl⟩

/-- The command that the next step takes out of the queue. -/
def serves (l : EventLoop κ σ δ τ) : Option Command :=
  match l.phase with
  | .polling =>
      match l.tracker.nextDeadline with
      | .error _ => none
      | .ok _ => if l.isShutDown then none else (l.turn.hub.nextCommand l.id).map (·.1)
  | .starting | .delivering _ | .finished | .stopped _ => none

variable [Transport τ] {rounds : Nat} {t : Turn κ σ δ} {cs : List Command}
  {l l' : EventLoop κ σ δ τ}

theorem outcome_stop (l : EventLoop κ σ δ τ) (why : Stop) : Outcome rounds t cs (l.stop why) := by
  unfold stop
  simp only
  split
  · exact .stops rfl
  · exact .stops rfl

/-- Going on with a run of the bridge is known if it is known where the run came to its end. -/
theorem outcome_resume {r : Run (Turn κ σ δ)} {next : EventLoop κ σ δ τ → EventLoop κ σ δ τ}
    (hnext : r.stop = none → Outcome rounds t cs (next { l with turn := r.state })) :
    Outcome rounds t cs (l.resume r next) := by
  unfold resume
  simp only
  split
  · exact hnext ‹_›
  · exact outcome_stop _ _

theorem outcome_leave (h : t.Works rounds cs l.turn) : Outcome rounds t cs (l.leave rounds) := by
  have hshut : t.Works rounds cs l.shutTransport.turn := by
    unfold shutTransport
    split
    · exact h
    · exact h.notice _
  exact outcome_resume fun hend => .ends hshut hend rfl

theorem outcome_afterDelivery (h : t.Works rounds cs l.turn) :
    Outcome rounds t cs (l.afterDelivery (leave rounds)) := by
  unfold afterDelivery
  split
  · exact outcome_leave h
  · exact .goesOn rfl nofun h

theorem outcome_deliver (h : t.Works rounds cs l.turn) :
    Outcome rounds t cs (l.deliver rounds) := by
  unfold deliver
  simp only
  split
  · exact outcome_afterDelivery h.take
  · exact .goesOn rfl nofun h.take

/-- A way into the bridge is followed by the delivery of what the bridge flushed. -/
theorem outcome_enter {e : Entrance} (he : e ≠ .deactivate) (hactions : e.actions = [])
    (h : t.Works rounds cs l.turn) :
    Outcome rounds t cs (l.resume (l.turn.enterBy rounds e) (deliver rounds)) :=
  outcome_resume fun hend => outcome_deliver (h.enter he hactions hend)

theorem outcome_reportIdle (kinds : List IdleKind) (h : t.Works rounds cs l.turn) :
    Outcome rounds t cs (l.reportIdle rounds kinds) := by
  refine outcome_resume fun hend => outcome_deliver ?_
  show t.Works rounds cs (Run.each _ kinds l.turn).state
  generalize l.turn = now at h hend
  induction kinds generalizing now with
  | nil => exact h
  | cons k kinds ih =>
      obtain ⟨hfirst, hrest⟩ := Run.stop_andThen.mp hend
      have hmoved : t.Works rounds cs (now.onIdle rounds k).state :=
        h.enter (e := .idle k) nofun rfl hfirst
      rw [Run.each, Run.state_andThen hfirst]
      exact ih _ hmoved hrest

theorem outcome_takeInput (now : Nat) (xs : Bytes) (h : t.Works rounds cs l.turn) :
    Outcome rounds t cs (l.takeInput rounds now xs) := by
  unfold takeInput
  exact outcome_enter (e := .decode (l.buffer.append xs).data) nofun rfl h

theorem outcome_lookIdle {now : Nat} (h : t.Works rounds cs l.turn)
    (hl : l.lookIdle rounds now = some l') : Outcome rounds t cs l' := by
  unfold lookIdle at hl
  split at hl
  · cases hl
    exact outcome_stop _ _
  · cases hl
  · cases hl
    exact outcome_reportIdle _ h

theorem outcome_look {now : Nat} (hl : l.look rounds now = some l') :
    Outcome rounds l.turn
      (if l.isShutDown then none else (l.turn.hub.nextCommand l.id).map (·.1)).toList l' := by
  unfold look at hl
  split at hl
  · rename_i hshut
    cases hl
    rw [if_pos hshut]
    exact outcome_deliver (.enter (e := .close) nofun rfl rfl (.notice _ .refl))
  · rename_i hshut
    rw [if_neg hshut]
    split at hl
    · rename_i c hub hnext
      cases hl
      rw [hnext]
      exact outcome_resume fun hend => outcome_deliver (.serve hnext hend .refl)
    · rename_i hnext
      rw [hnext]
      simp only at hl
      rcases hread : Transport.read l.transport l.buffer.prepare.room with ⟨answer, transport⟩
      rw [hread] at hl
      cases answer with
      | pending =>
          exact outcome_lookIdle (l := { l with buffer := l.buffer.prepare }) .refl hl
      | failed m =>
          cases hl
          exact outcome_enter (e := .exception (.transport m)) nofun rfl (.notice _ .refl)
      | ready xs =>
          cases xs with
          | nil =>
              cases hl
              exact outcome_leave (.notice _ .refl)
          | cons x xs =>
              cases hl
              exact outcome_takeInput now _ .refl

theorem outcome_poll {now : Nat} (hphase : l.phase = .polling)
    (hl : l.poll rounds now = some l') : Outcome rounds l.turn l.serves.toList l' := by
  unfold poll at hl
  cases hdue : l.tracker.nextDeadline with
  | error why =>
      rw [hdue] at hl
      cases hl
      exact outcome_stop l _
  | ok due? =>
      rw [hdue] at hl
      simp only [serves, hphase, hdue]
      exact outcome_look hl

theorem outcome_goOn {now : Nat} {d : Delivery} (hl : l.goOn rounds now d = some l') :
    Outcome rounds l.turn [] l' := by
  unfold goOn at hl
  split at hl
  · cases hl
  · cases hl
    exact .goesOn rfl nofun .refl
  · split at hl
    · cases hl
      exact outcome_afterDelivery (.resolve _ .refl)
    · cases hl
      exact outcome_leave (.notice _ (.resolve _ .refl))

/-- A step of a loop is work on its bridge; then the loop goes on, comes to its end, or is
stopped. -/
theorem outcome_step {now : Nat} (hl : l.step rounds now = some l') :
    Outcome rounds l.setOut l.serves.toList l' := by
  unfold step at hl
  unfold setOut
  cases hphase : l.phase with
  | starting =>
      rw [hphase] at hl
      cases hl
      simp only [serves, hphase]
      exact outcome_enter (e := .activate) nofun rfl (.notice _ .refl)
  | polling =>
      rw [hphase] at hl
      exact outcome_poll hphase hl
  | delivering d =>
      rw [hphase] at hl
      simp only [serves, hphase]
      exact outcome_goOn hl
  | finished | stopped =>
      rw [hphase] at hl
      cases hl

end EventLoop

end FrameBridge
