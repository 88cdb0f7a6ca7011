import FrameBridge.Loop.Course

/-!
# Taps change nothing

A loop does the same over a transport with a tap as over the transport itself, so what is shown
of loops with a tap is shown of loops.
-/

namespace FrameBridge

variable {κ σ δ τ : Type}

/-- What the step of a delivery comes to without the tap. -/
def DeliveryStep.untap : DeliveryStep (Tap τ) → DeliveryStep τ
  | .pending => .pending
  | .going d t => .going d t.inner
  | .ended failure resolutions t => .ended failure resolutions t.inner

theorem Delivery.untap_step [Transport τ] (d : Delivery) (t : Tap τ) :
    (d.step t).untap = d.step t.inner := by
  obtain ⟨written, waiting⟩ := d
  cases waiting with
  | nil =>
      simp only [step, Transport.flush, Tap.flush]
      rcases Transport.flush t.inner with ⟨_ | _, inner⟩ <;> rfl
  | cons o rest =>
      simp only [step]
      split
      · rfl
      · simp only [Transport.write, Tap.write]
        rcases Transport.write t.inner o.bytes with ⟨_ | n | _, inner⟩
        · rfl
        · cases n <;> rfl
        · rfl

namespace EventLoop

/-- The loop without the tap around its transport. -/
def untap (l : EventLoop κ σ δ (Tap τ)) : EventLoop κ σ δ τ :=
  { l with transport := l.transport.inner }

variable [Transport τ]

theorem untap_stop (l : EventLoop κ σ δ (Tap τ)) (why : Stop) :
    (l.stop why).untap = l.untap.stop why := by
  obtain ⟨turn, transport, buffer, idle, tracker, isShutDown, isSupervised, phase⟩ := l
  cases why with
  | panicked m => cases isSupervised <;> rfl
  | unsettled => rfl

theorem untap_resume (l : EventLoop κ σ δ (Tap τ)) (r : Run (Turn κ σ δ))
    (next : EventLoop κ σ δ (Tap τ) → EventLoop κ σ δ (Tap τ))
    (next' : EventLoop κ σ δ τ → EventLoop κ σ δ τ) (hnext : ∀ l, (next l).untap = next' l.untap) :
    (l.resume r next).untap = l.untap.resume r next' := by
  unfold resume
  simp only
  cases r.stop with
  | none => exact hnext _
  | some why => exact untap_stop _ why

theorem untap_shutTransport (l : EventLoop κ σ δ (Tap τ)) :
    l.shutTransport.untap = l.untap.shutTransport := by
  simp only [shutTransport, untap, Transport.shutdown, Tap.shutdown]
  rcases Transport.shutdown l.transport.inner with ⟨_ | _, inner⟩ <;> rfl

variable [Codec κ] [Connection σ] [Decoder δ]

theorem untap_leave (rounds : Nat) (l : EventLoop κ σ δ (Tap τ)) :
    (l.leave rounds).untap = l.untap.leave rounds := by
  have hresume := untap_resume l.shutTransport (l.shutTransport.turn.deactivate rounds)
    finish finish fun _ => rfl
  unfold leave
  simp only
  rw [hresume, ← untap_shutTransport]
  rfl

theorem untap_afterDelivery (rounds : Nat) (l : EventLoop κ σ δ (Tap τ)) :
    (l.afterDelivery (leave rounds)).untap = l.untap.afterDelivery (leave rounds) := by
  have hleave := untap_leave rounds l
  unfold afterDelivery
  simp only [apply_ite untap, hleave]
  rfl

theorem untap_deliver (rounds : Nat) (l : EventLoop κ σ δ (Tap τ)) :
    (l.deliver rounds).untap = l.untap.deliver rounds := by
  unfold deliver
  simp only [apply_ite untap, untap_afterDelivery]
  rfl

theorem untap_start (rounds now : Nat) (l : EventLoop κ σ δ (Tap τ)) :
    (l.start rounds now).untap = l.untap.start rounds now :=
  untap_resume _ _ _ _ (untap_deliver rounds)

theorem untap_takeInput (rounds now : Nat) (l : EventLoop κ σ δ (Tap τ)) (xs : Bytes) :
    (l.takeInput rounds now xs).untap = l.untap.takeInput rounds now xs :=
  untap_resume _ _ _ _ (untap_deliver rounds)

theorem untap_lookIdle (rounds now : Nat) (l : EventLoop κ σ δ (Tap τ)) :
    (l.lookIdle rounds now).map untap = l.untap.lookIdle rounds now := by
  have htracker : l.untap.tracker = l.tracker := rfl
  unfold lookIdle
  rw [htracker]
  rcases l.tracker.expireAll now with why | ⟨_ | ⟨k, kinds⟩, tracker⟩
  · exact congrArg some (untap_stop l why)
  · rfl
  · exact congrArg some (untap_resume _ _ _ _ (untap_deliver rounds))

theorem untap_look (rounds now : Nat) (l : EventLoop κ σ δ (Tap τ)) :
    (l.look rounds now).map untap = l.untap.look rounds now := by
  have hshut : l.untap.isShutDown = l.isShutDown := rfl
  have hnext : l.untap.turn.hub.nextCommand l.untap.id = l.turn.hub.nextCommand l.id := rfl
  unfold look
  rw [hshut, hnext]
  split
  · exact congrArg some (untap_deliver rounds _)
  · cases l.turn.hub.nextCommand l.id with
    | some next => exact congrArg some (untap_resume _ _ _ _ (untap_deliver rounds))
    | none =>
        simp only [Transport.read, Tap.read, untap]
        rcases Transport.read l.transport.inner l.buffer.prepare.room with ⟨_ | xs | m, inner⟩
        · exact untap_lookIdle rounds now _
        · cases xs with
          | nil => exact congrArg some (untap_leave rounds _)
          | cons x xs => exact congrArg some (untap_takeInput rounds now _ _)
        · exact congrArg some (untap_resume _ _ _ _ (untap_deliver rounds))

theorem untap_poll (rounds now : Nat) (l : EventLoop κ σ δ (Tap τ)) :
    (l.poll rounds now).map untap = l.untap.poll rounds now := by
  have htracker : l.untap.tracker = l.tracker := rfl
  unfold poll
  rw [htracker]
  cases l.tracker.nextDeadline with
  | error why => exact congrArg some (untap_stop l why)
  | ok due? => exact untap_look rounds now l

theorem untap_goOn (rounds now : Nat) (l : EventLoop κ σ δ (Tap τ)) (d : Delivery) :
    (l.goOn rounds now d).map untap = l.untap.goOn rounds now d := by
  have hstep := d.untap_step l.transport
  have hinner : l.untap.transport = l.transport.inner := rfl
  unfold goOn
  rw [hinner, ← hstep]
  cases d.step l.transport with
  | pending => rfl
  | going d t => rfl
  | ended failure rs t =>
      cases failure with
      | none => exact congrArg some (untap_afterDelivery rounds _)
      | some e => exact congrArg some (untap_leave rounds _)

/-- A loop takes the same step over a transport with a tap as over the transport itself. -/
theorem untap_step (rounds now : Nat) (l : EventLoop κ σ δ (Tap τ)) :
    (l.step rounds now).map untap = l.untap.step rounds now := by
  have hphase : l.untap.phase = l.phase := rfl
  unfold step
  rw [hphase]
  cases l.phase with
  | starting => exact congrArg some (untap_start rounds now l)
  | polling => exact untap_poll rounds now l
  | delivering d => exact untap_goOn rounds now l d
  | finished | stopped why => rfl

theorem untap_run (rounds now n : Nat) (l : EventLoop κ σ δ (Tap τ)) :
    (l.run rounds now n).untap = l.untap.run rounds now n := by
  induction n generalizing l with
  | zero => rfl
  | succ n ih =>
      have hstep := untap_step rounds now l
      unfold run
      rw [← hstep]
      cases l.step rounds now with
      | none => rfl
      | some l' => exact ih l'

end EventLoop

end FrameBridge
