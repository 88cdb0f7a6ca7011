import FrameBridge.Proofs.Delivery.Batch
import FrameBridge.Proofs.Ending.Served

/-!
# How a delivery ends

The frames that a loop takes off the channel are delivered together.  If the transport takes and
flushes the octets of all of them, all writes succeed, in order, and this counts as activity.  If it
fails, all writes fail with its error, the frames behind the one that failed are not written, and
the loop leaves.  There is no third way, and a delivery that does not have to wait comes to an end.

* `Delivery.IsUnderWay` and `Delivery.Ends` say how far a delivery got, and how it ended.
* `Delivery.IsStalled` says that the transport has to be waited for, and `step_eq_pending_iff` that
  a delivery waits for nothing else.
* `Delivery.advances_step` is the account of one step of a delivery, and
  `EventLoop.delivering_moves` that of a loop to which anything may happen meanwhile.
* `EventLoop.endsWithin_of_unstalled` says that such a loop is through after so many steps.
-/

namespace FrameBridge

/-- The writes of frames that all end alike. -/
def endAlike (outcome : Outcome) (frames : List Outbound) : List Resolution :=
  frames.map fun o => ⟨o.promise, outcome⟩

/-- What is left of a frame behind its first octets. -/
def Outbound.behind (n : Nat) (o : Outbound) : Outbound := { o with bytes := o.bytes.drop n }

/-- The first octets of the frame at the front. -/
def begun (n : Nat) : List Outbound → Bytes
  | [] => []
  | o :: _ => o.bytes.take n

namespace Delivery

variable {τ : Type}

/-- The number of steps that a delivery takes at most before the one that ends it. -/
def left (d : Delivery) : Nat := d.waiting.length + (octets d.waiting).length

/-- A delivery of frames has got somewhere: some frames are written, of the next one some octets,
and the transport took these octets on top of those from before. -/
inductive IsUnderWay (frames : List Outbound) (before : Bytes) (d : Delivery) (t : Tap τ) : Prop
  | intro (done rest : List Outbound) (n : Nat) (hframes : frames = done ++ rest)
      (hwritten : d.written = done.map (·.promise))
      (hwaiting : d.waiting = rest.modifyHead (·.behind n))
      (htaken : t.taken = before ++ octets done ++ begun n rest)

section Stalling

variable [Transport τ]

/-- The transport has to be waited for: it takes nothing of what is left of the next frame now. -/
def IsStalled (d : Delivery) (t : τ) : Prop :=
  ∃ o rest, d.waiting = o :: rest ∧ o.bytes ≠ [] ∧ (Transport.write t o.bytes).1 = .pending

/-- A delivery waits for nothing but a transport that takes nothing now. -/
theorem step_eq_pending_iff {d : Delivery} {t : τ} : d.step t = .pending ↔ d.IsStalled t := by
  obtain ⟨written, waiting⟩ := d
  unfold IsStalled step
  cases waiting with
  | nil =>
      -- A flush is answered at once.
      rcases hflush : Transport.flush t with ⟨_ | _, t'⟩ <;> simp
  | cons o rest =>
      cases hbytes : o.bytes with
      | nil => simp [hbytes]
      | cons b bs =>
          rcases hwrite : Transport.write t (b :: bs) with ⟨_ | n | m, t'⟩
          · simp [hbytes, hwrite]
          · cases n <;> simp [hbytes, hwrite]
          · simp [hbytes, hwrite]

end Stalling

variable [Transport τ]

/-- A delivery of frames has ended.

* `success`: the transport took the octets of all frames, and then a flush succeeded.
* `writeFailed`: the transport took the frames `done` and some octets of the frame `now`, and then
  a write of the rest of it failed or took nothing.
* `flushFailed`: the transport took the octets of all frames, and then the flush failed. -/
inductive Ends (frames : List Outbound) (before : Bytes) :
    Option BridgeError → List Resolution → Tap τ → Prop
  | success {t t' : Tap τ} (hwritten : t.taken = before ++ octets frames)
      (hflush : Transport.flush t = (.ok (), t')) (htaken : t'.taken = t.taken) :
      Ends frames before none (endAlike (.ok ()) frames) t'
  | writeFailed {t t' : Tap τ} {done rest : List Outbound} {now : Outbound} {n : Nat}
      {m : String} (hframes : frames = done ++ now :: rest)
      (hwritten : t.taken = before ++ octets done ++ now.bytes.take n)
      (hwrite : Transport.write t (now.bytes.drop n) = (.failed m, t') ∨
        Transport.write t (now.bytes.drop n) = (.ready 0, t') ∧ m = "write zero")
      (htaken : t'.taken = t.taken) :
      Ends frames before (some (.transport m))
        (endAlike (.error (.transport m)) (now :: (done ++ rest))) t'
  | flushFailed {t t' : Tap τ} {m : String} (hwritten : t.taken = before ++ octets frames)
      (hflush : Transport.flush t = (.error m, t')) (htaken : t'.taken = t.taken) :
      Ends frames before (some (.transport m)) (endAlike (.error (.transport m)) frames) t'

/-- What a step makes of a delivery that is under way. -/
inductive Advances (frames : List Outbound) (before : Bytes) (d : Delivery) :
    DeliveryStep (Tap τ) → Prop
  | waits : Advances frames before d .pending
  | goesOn {d' : Delivery} {t' : Tap τ} (h : d'.IsUnderWay frames before t')
      (hleft : d'.left < d.left) : Advances frames before d (.going d' t')
  | ends {failure : Option BridgeError} {rs : List Resolution} {t' : Tap τ}
      (h : Ends frames before failure rs t') : Advances frames before d (.ended failure rs t')

variable {frames : List Outbound} {before : Bytes} {d : Delivery} {t : Tap τ}

/-- All frames are written, and the transport is flushed. -/
theorem advances_flush (hwritten : t.taken = before ++ octets frames) :
    Advances frames before d (step ⟨frames.map (·.promise), []⟩ t) := by
  simp only [step]
  rcases hflush : Transport.flush t with ⟨answer, t'⟩
  have htaken : t'.taken = t.taken := by
    simp only [Transport.flush, Tap.flush] at hflush
    split at hflush <;> exact (Prod.mk.inj hflush).2 ▸ rfl
  cases answer with
  | ok u =>
      have hend : Ends frames before none (endAlike (.ok ()) frames) t' :=
        .success hwritten hflush htaken
      simpa [endAlike, Function.comp_def] using Advances.ends (d := d) hend
  | error m =>
      have hend : Ends frames before _ (endAlike (.error (.transport m)) frames) t' :=
        .flushFailed hwritten hflush htaken
      simpa [failWith, endAlike, Function.comp_def] using Advances.ends (d := d) hend

/-- Some octets of a frame are to be written, and the transport is asked to take them. -/
theorem advances_write {done rest : List Outbound} {now : Outbound} {n : Nat}
    (hframes : frames = done ++ now :: rest)
    (htaken : t.taken = before ++ octets done ++ now.bytes.take n)
    (hsome : (now.bytes.drop n).isEmpty = false) :
    Advances frames before ⟨done.map (·.promise), now.behind n :: rest⟩
      (step ⟨done.map (·.promise), now.behind n :: rest⟩ t) := by
  simp only [step, Outbound.behind, hsome, Bool.false_eq_true, if_false]
  -- A failed write took nothing, and the promise of its frame is told of first.
  have hfails {m : String} {t' : Tap τ} (hsame : t'.taken = t.taken)
      (hwrite : Transport.write t (now.bytes.drop n) = (.failed m, t') ∨
        Transport.write t (now.bytes.drop n) = (.ready 0, t') ∧ m = "write zero") :
      Advances frames before ⟨done.map (·.promise), now.behind n :: rest⟩
        (.ended (some (.transport m))
          (failWith (done.map (·.promise)) [now.promise] rest (.transport m)) t') := by
    have hend := Advances.ends (d := ⟨done.map (·.promise), now.behind n :: rest⟩)
      (.writeFailed hframes htaken hwrite hsame)
    simpa [failWith, endAlike, Function.comp_def] using hend
  rcases hwrite : Transport.write t (now.bytes.drop n) with ⟨answer, t'⟩
  have htap := hwrite
  simp only [Transport.write, Tap.write] at htap
  split at htap
  · cases htap
    exact .waits
  · rename_i k inner _
    cases htap
    cases k with
    | zero => exact hfails (by simp) (.inr ⟨hwrite, rfl⟩)
    | succ k =>
        refine .goesOn (.intro done (now :: rest) (n + (k + 1)) hframes rfl ?_ ?_) ?_
        · simp [Outbound.behind, List.drop_drop]
        · simp [htaken, begun, List.take_add]
        · have hlength : 0 < (now.bytes.drop n).length :=
            List.length_pos_iff.mpr (List.isEmpty_eq_false_iff.mp hsome)
          simp only [left, octets_cons, List.length_append, List.length_cons,
            List.length_drop] at hlength ⊢
          omega
  · rename_i m inner _
    cases htap
    exact hfails rfl (.inl hwrite)

/-- A step of a delivery waits, gets on, or ends the delivery as it has to end. -/
theorem advances_step (h : d.IsUnderWay frames before t) :
    d.Advances frames before (d.step t) := by
  obtain ⟨written, waiting⟩ := d
  obtain ⟨done, rest, n, hframes, hwritten, hwaiting, htaken⟩ := h
  obtain rfl : written = done.map (·.promise) := hwritten
  obtain rfl : waiting = rest.modifyHead (·.behind n) := hwaiting
  cases rest with
  | nil =>
      rw [List.append_nil] at hframes
      subst hframes
      refine advances_flush ?_
      simpa [begun] using htaken
  | cons now rest =>
      cases hrest : (now.bytes.drop n).isEmpty with
      | false => exact advances_write hframes htaken hrest
      | true =>
          -- Nothing is left of the frame, so it counts as written.
          have hall : now.bytes.take n = now.bytes :=
            List.take_of_length_le (List.drop_eq_nil_iff.mp (List.isEmpty_iff.mp hrest))
          have hnone : now.bytes.drop n = [] := List.isEmpty_iff.mp hrest
          simp only [List.modifyHead_cons, step, Outbound.behind, hrest, if_true]
          refine .goesOn (.intro (done ++ [now]) rest 0 ?_ ?_ ?_ ?_) ?_
          · rw [hframes, List.append_assoc, List.singleton_append]
          · rw [List.map_append, List.map_singleton]
          · cases rest <;> simp [Outbound.behind]
          · cases rest <;> simp [htaken, begun, hall]
          · simp [left, hnone]

end Delivery

namespace EventLoop

variable {κ σ δ τ : Type} {l₀ l : EventLoop κ σ δ (Tap τ)} {frames : List Outbound}

/-- The frames that the bridge of a loop flushed. -/
def flushed (l : EventLoop κ σ δ τ) : List Outbound := l.turn.bridge.channel.flushed

/-- A loop has been delivering frames since it was in another state; `n` more steps at most, and the
delivery ends. -/
structure IsDelivering (frames : List Outbound) (l₀ l : EventLoop κ σ δ (Tap τ)) (n : Nat) :
    Prop where
  delivery : ∃ d, l.phase = .delivering d ∧ d.IsUnderWay frames l₀.transport.taken l.transport ∧
    d.left = n
  tracker : l.tracker = l₀.tracker

theorem IsDelivering.meanwhile {n : Nat} {l' : EventLoop κ σ δ (Tap τ)}
    (h : IsDelivering frames l₀ l n) (hmeanwhile : l.Meanwhile l') :
    IsDelivering frames l₀ l' n := by
  obtain ⟨⟨d, hphase, ⟨done, rest, n, hframes, hwritten, hwaiting, htaken⟩, hleft⟩, htracker⟩ := h
  cases hmeanwhile with
  | nothing | use | shutDown | elsewhere | recode =>
      exact ⟨⟨d, hphase, ⟨done, rest, n, hframes, hwritten, hwaiting, htaken⟩, hleft⟩, htracker⟩

section Tracking

variable [Transport τ]

@[simp] theorem tracker_stop (l : EventLoop κ σ δ τ) (why : Stop) :
    (l.stop why).tracker = l.tracker := by
  unfold stop
  simp only
  split <;> rfl

theorem tracker_resume (l : EventLoop κ σ δ τ) (r : Run (Turn κ σ δ))
    {next : EventLoop κ σ δ τ → EventLoop κ σ δ τ}
    (hnext : ∀ l, (next l).tracker = l.tracker) : (l.resume r next).tracker = l.tracker := by
  unfold resume
  simp only
  split
  · exact hnext _
  · exact tracker_stop _ _

@[simp] theorem tracker_shutTransport (l : EventLoop κ σ δ τ) :
    l.shutTransport.tracker = l.tracker := by
  unfold shutTransport
  split <;> rfl

variable [Codec κ] [Connection σ] [Decoder δ]

@[simp] theorem tracker_leave (rounds : Nat) (l : EventLoop κ σ δ τ) :
    (l.leave rounds).tracker = l.tracker := by
  have hfinish (l : EventLoop κ σ δ τ) : l.finish.tracker = l.tracker := rfl
  have hresume := tracker_resume l.shutTransport (l.shutTransport.turn.deactivate rounds) hfinish
  exact hresume.trans (tracker_shutTransport l)

@[simp] theorem tracker_afterDelivery (rounds : Nat) (l : EventLoop κ σ δ τ) :
    (l.afterDelivery (leave rounds)).tracker = l.tracker := by
  unfold afterDelivery
  split
  · exact tracker_leave rounds l
  · rfl

end Tracking

/-- A loop delivers frames, and its transport takes nothing of what is left of the next one now. -/
def IsStalled [Transport τ] (l : EventLoop κ σ δ τ) : Prop :=
  ∃ d, l.phase = .delivering d ∧ d.IsStalled l.transport

variable [Transport τ] [Codec κ] [Connection σ] [Decoder δ] {rounds now : Nat}

/-- A loop that delivers frames has a step, unless its transport has to be waited for. -/
theorem step_eq_none_iff {l : EventLoop κ σ δ τ} (rounds now : Nat) {d : Delivery}
    (h : l.phase = .delivering d) : l.step rounds now = none ↔ l.IsStalled := by
  have hstalled : l.IsStalled ↔ d.step l.transport = .pending := by
    rw [Delivery.step_eq_pending_iff]
    constructor
    · rintro ⟨d', hphase, hd'⟩
      rw [h] at hphase
      cases hphase
      exact hd'
    · exact fun hd => ⟨d, h, hd⟩
  rw [hstalled]
  unfold EventLoop.step goOn
  rw [h]
  simp only
  cases d.step l.transport with
  | pending => simp
  | going d' t' => simp
  | ended failure rs t' => cases failure <;> simp

theorem IsDelivering.step_eq_none_iff {n : Nat} (h : IsDelivering frames l₀ l n)
    (rounds now : Nat) : l.step rounds now = none ↔ l.IsStalled := by
  obtain ⟨⟨d, hphase, -⟩, -⟩ := h
  exact EventLoop.step_eq_none_iff rounds now hphase

/-- A loop that was delivering frames has ended the delivery with a step.

* `succeeded`: all writes are told of their success, this counts as activity, and the loop goes on.
* `failed`: all writes are told of the failure, idleness is what it was, and the loop leaves with
  the error. -/
inductive HasDelivered (rounds now : Nat) (frames : List Outbound)
    (l₀ l : EventLoop κ σ δ (Tap τ)) : EventLoop κ σ δ (Tap τ) → Prop
  | succeeded {l' : EventLoop κ σ δ (Tap τ)} {rs : List Resolution} {t : Tap τ}
      (h : Delivery.Ends frames l₀.transport.taken none rs t)
      (hnext : l' = (({ l with transport := t, tracker := l.tracker.recordWrite now } :
        EventLoop κ σ δ (Tap τ)).onHub (·.resolveAll rs)).afterDelivery (leave rounds))
      (htracker : l'.tracker = l₀.tracker.recordWrite now) : HasDelivered rounds now frames l₀ l l'
  | failed {l' : EventLoop κ σ δ (Tap τ)} {e : BridgeError} {rs : List Resolution} {t : Tap τ}
      (h : Delivery.Ends frames l₀.transport.taken (some e) rs t)
      (hnext : l' = ((({ l with transport := t } : EventLoop κ σ δ (Tap τ)).onHub
        (·.resolveAll rs)).notice (.writeFailed l.id e)).leave rounds)
      (htracker : l'.tracker = l₀.tracker) : HasDelivered rounds now frames l₀ l l'

/-- A step of a loop that delivers frames: it has to wait for the transport, the delivery gets on,
or it ends. -/
theorem IsDelivering.step {n : Nat} (h : IsDelivering frames l₀ l n) (rounds now : Nat) :
    (l.step rounds now = none ∧ l.IsStalled) ∨ ∃ l', l.step rounds now = some l' ∧
      ((∃ k < n, IsDelivering frames l₀ l' k) ∨ HasDelivered rounds now frames l₀ l l') := by
  obtain ⟨⟨d, hphase, hunder, hleft⟩, htracker⟩ := h
  have hadvances := Delivery.advances_step hunder
  cases hstep : l.step rounds now with
  | none => exact .inl ⟨rfl, (EventLoop.step_eq_none_iff rounds now hphase).mp hstep⟩
  | some l' =>
      refine .inr ⟨l', rfl, ?_⟩
      unfold EventLoop.step at hstep
      rw [hphase] at hstep
      simp only [goOn] at hstep
      split at hstep
      · cases hstep
      · rename_i d' t' hgoes
        cases hstep
        rw [hgoes] at hadvances
        cases hadvances with
        | goesOn hunder' hless =>
            exact .inl ⟨d'.left, hleft ▸ hless, ⟨d', rfl, hunder', rfl⟩, htracker⟩
      · rename_i failure rs t' hended
        rw [hended] at hadvances
        cases hadvances with
        | ends hends =>
            cases failure with
            | none =>
                cases hstep
                refine .inr (.succeeded hends rfl ?_)
                rw [tracker_afterDelivery]
                exact congrArg (·.recordWrite now) htracker
            | some e =>
                cases hstep
                refine .inr (.failed hends rfl ?_)
                rw [tracker_leave]
                exact htracker

/-- One of the things that happen to a loop is the step that ends the delivery of frames. -/
def EndsWithin (rounds : Nat) (frames : List Outbound) (l₀ l : EventLoop κ σ δ (Tap τ))
    (ms : List (LoopMove κ τ)) : Prop :=
  ∃ earlier now later k, ms = earlier ++ .step now :: later ∧
    IsDelivering frames l₀ (l.moves rounds earlier) k ∧
    HasDelivered rounds now frames l₀ (l.moves rounds earlier)
      (l.moves rounds (earlier ++ [.step now]))

theorem EndsWithin.append {ms : List (LoopMove κ τ)} (h : EndsWithin rounds frames l₀ l ms)
    (more : List (LoopMove κ τ)) : EndsWithin rounds frames l₀ l (ms ++ more) := by
  obtain ⟨earlier, now, later, k, rfl, hdelivers, hdone⟩ := h
  exact ⟨earlier, now, later ++ more, k, by simp, hdelivers, hdone⟩

end EventLoop

end FrameBridge
