import FrameBridge.Proofs.Law.Turn

/-!
# Tallies

Each counter of frames stands for something that is on record elsewhere: frames that arrived, and
frames that a channel accepted.  Errors are counted under labels, and those that are handled are
referred to a codec.  The tally of a hub puts the counters and the records side by side.

Counters and records are raised at different places, but everything that is written and all
application code leaves the tally as it is.  Only the handling of errors changes it.
-/

namespace FrameBridge

/-- The frame that an event brings. -/
def Event.frame? : Event → Option Frame
  | .frame f => some f
  | .stream .. | .goAway _ | .writabilityChanged _ | .error _ => none

/-- The label under which an error that is no violation of the peer's is counted. -/
def BridgeError.label (e : BridgeError) : ErrorLabel :=
  if e.isContractViolation then .contract else .exception

/-- The errors that were counted as handled, under whatever label. -/
def Metrics.handled (m : Metrics) : Nat :=
  m.errors .contract + m.errors .exception + m.errors .protocol

theorem Metrics.errors_countError (m : Metrics) (l : ErrorLabel) :
    (m.countError l).errors = fun l' => m.errors l' + if l' = l then 1 else 0 := by
  funext l'
  cases l <;> cases l' <;> rfl

/-- By how much the counters are ahead of what they count at one loop; the errors, the gauge of the
loops that run. -/
structure Surplus where
  inbound : Int
  outbound : Int
  errors : Int
  running : Option Int

/-- One more error is counted that was not referred to a codec. -/
def Surplus.owing (s : Surplus) : Surplus := { s with errors := s.errors + 1 }

theorem Surplus.owing_injective : Function.Injective Surplus.owing := by
  rintro ⟨inbound, outbound, errors, running⟩ ⟨inbound', outbound', errors', running'⟩ h
  simp only [owing, mk.injEq] at h
  obtain ⟨rfl, rfl, herrors, rfl⟩ := h
  simp only [mk.injEq, true_and, and_true]
  omega

/-- What the counters say beside what is on record at one loop: by how much the counters of frames
are ahead, how many errors were counted under each label, which violations were referred to the
codec, and the gauge of the loops that run. -/
@[ext]
structure Tally where
  inbound : Int
  outbound : Int
  counted : ErrorLabel → Nat
  referred : List ProtocolError
  running : Option Int

namespace Tally

/-- One more error is counted. -/
def count (l : ErrorLabel) (s : Tally) : Tally :=
  { s with counted := fun l' => s.counted l' + if l' = l then 1 else 0 }

/-- One more violation is referred to the codec. -/
def refer (e : ProtocolError) (s : Tally) : Tally := { s with referred := s.referred ++ [e] }

/-- By how much the counters are ahead. -/
def surplus (s : Tally) : Surplus where
  inbound := s.inbound
  outbound := s.outbound
  errors := (s.counted .contract + s.counted .exception + s.counted .protocol : Nat) -
    (s.referred.length : Int)
  running := s.running

/-- An error that is counted is owed to the codec, under whatever label. -/
theorem surplus_count {l : ErrorLabel} (hl : l ≠ .panic) (s : Tally) :
    (s.count l).surplus = s.surplus.owing := by
  cases l with
  | panic => exact absurd rfl hl
  | contract | exception | protocol =>
      simp only [surplus, count, Surplus.owing, reduceCtorEq, if_true, if_false, Surplus.mk.injEq,
        true_and, and_true]
      omega

/-- A violation that is referred to the codec is no longer owed. -/
theorem surplus_refer (e : ProtocolError) (s : Tally) :
    (s.refer e).surplus.owing = s.surplus := by
  simp only [surplus, refer, Surplus.owing, List.length_append, List.length_singleton]
  congr 1
  omega

end Tally

namespace Hub

/-- The frames that were delivered to a bridge before its end, oldest first. -/
def framesAt (h : Hub) (loop : LoopId) : List Frame :=
  h.arrivals.reverse.filterMap fun a => if a.loop = loop then a.event.frame? else none

/-- The violations that the codec of a bridge was asked to react to, oldest first. -/
def referredAt (h : Hub) (loop : LoopId) : List ProtocolError :=
  h.referrals.reverse.filterMap fun r => if r.loop = loop then some r.error else none

/-- The tally of a loop. -/
def tally (h : Hub) (loop : LoopId) : Tally where
  inbound := h.metrics.inbound - (h.framesAt loop).length
  outbound := h.metrics.outbound - (acceptedFrames h.journal loop).length
  counted := h.metrics.errors
  referred := h.referredAt loop
  running := h.metrics.running

theorem tally_record_of_none {e : Entry} (he : e.accepted? = none) (h : Hub)
    (home loop : LoopId) : (h.record home e).tally loop = h.tally loop := by
  have hframes : acceptedFrames (h.record home e).journal loop = acceptedFrames h.journal loop :=
    reported_cons_of_none Entry.accepted? (r := ⟨home, e⟩) he h.journal loop
  simp only [tally, hframes]
  rfl

/-- A frame that the channel accepts is counted. -/
theorem tally_accepted (h : Hub) (loop : LoopId) (f : Outbound) :
    ((h.record loop (.accepted f)).meter Metrics.countOutbound).tally loop = h.tally loop := by
  have hframes : acceptedFrames (h.record loop (.accepted f)).journal loop =
      acceptedFrames h.journal loop ++ [f] := by
    refine (reported_cons Entry.accepted? ⟨loop, .accepted f⟩ h.journal loop).trans ?_
    rw [if_pos rfl]
    rfl
  refine Tally.ext rfl ?_ rfl rfl rfl
  simp only [tally, meter, hframes, List.length_append, List.length_singleton]
  simp only [record, Metrics.countOutbound]
  omega

/-- An event that brings no frame is not counted. -/
theorem tally_arrive {e : Event} (he : e.frame? = none) (h : Hub) (loop : LoopId) :
    (h.arrive loop e).tally loop = h.tally loop := by
  simp [tally, framesAt, arrive, he, referredAt]

/-- A frame that arrives is counted. -/
theorem tally_arrive_frame (h : Hub) (loop : LoopId) (f : Frame) :
    ((h.arrive loop (.frame f)).meter Metrics.countInbound).tally loop = h.tally loop := by
  have hframes : ((h.arrive loop (.frame f)).meter Metrics.countInbound).framesAt loop =
      h.framesAt loop ++ [f] := by
    simp [framesAt, arrive, meter, Event.frame?]
  refine Tally.ext ?_ rfl rfl rfl rfl
  simp only [tally, hframes, List.length_append, List.length_singleton]
  simp only [meter, arrive, Metrics.countInbound]
  omega

theorem tally_countError (l : ErrorLabel) (h : Hub) (loop : LoopId) :
    (h.meter (·.countError l)).tally loop = (h.tally loop).count l := by
  have hcounted := h.metrics.errors_countError l
  cases l <;> exact Tally.ext rfl rfl hcounted rfl rfl

theorem tally_refer (h : Hub) (loop : LoopId) (e : ProtocolError) :
    (h.refer loop e).tally loop = (h.tally loop).refer e := by
  refine Tally.ext rfl rfl rfl ?_ rfl
  simp [tally, Tally.refer, referredAt, refer]

theorem tally_log (h : Hub) (r : Resolution) (loop : LoopId) :
    (h.log r).tally loop = h.tally loop := by
  unfold log
  split
  · rfl
  · exact tally_record_of_none rfl h _ loop

/-- Neither handles nor callbacks of writes count anything. -/
theorem law_tally (loop : LoopId) (p : Tally → Prop) :
    Law (fun _ => True) (Regardless fun h => p (h.tally loop)) where
  good_of_faithful _ := trivial
  void h := h
  log {r _ h} _ hp := (congrArg p (tally_log h r loop)).mpr hp
  forget _ _ _ h := h
  answered home _ _ h hp := (congrArg p (tally_record_of_none rfl h home loop)).mpr hp
  issue _ _ _ _ _ _ h := h
  reserve _ _ _ h := h
  inline _ _ h := h
  queue _ _ h := h

end Hub

namespace Outlet

variable {κ : Type}

/-- The loop of an outlet, and its tally. -/
def tally (o : Outlet κ) : LoopId × Tally := (o.home, o.hub.tally o.home)

/-- What a codec asks of the channel is counted as it is done. -/
theorem tally_carryOut (o : Outlet κ) (r : ChannelRequest) : (o.carryOut r).tally = o.tally := by
  cases r with
  | write bytes p =>
      have L := Hub.law_tally o.home fun s => (o.home, s) = o.tally
      have hended := Channel.failed_of_mem_write o.channel ⟨bytes, p⟩
      have hresolved {h : Hub} (htally : (o.home, h.tally o.home) = o.tally) :
          (o.home, (h.resolveAll (o.channel.write ⟨bytes, p⟩).2).tally o.home) = o.tally :=
        L.resolveAll hended (.of (_ ++ []) htally)
      unfold carryOut accept
      simp only [tally]
      apply hresolved
      split
      · exact congrArg (Prod.mk o.home) (Hub.tally_accepted _ _ _)
      · rfl
  | notify e | raise e => rfl
  | flush => exact congrArg (Prod.mk o.home) (Hub.tally_record_of_none rfl _ _ _)
  | close =>
      unfold carryOut close
      simp only [tally]
      split <;> rfl

/-- What a call to the codec brings about is counted as it is done. -/
theorem tally_call {α : Type} (o : Outlet κ) (describe : α → CodecCall) (s : CodecStep κ α) :
    (o.call describe s).2.tally = o.tally := by
  refine holds_carryOut (Q := fun o' => o'.tally = o.tally)
    (fun o' r h => (tally_carryOut o' r).trans h) _ ?_
  exact congrArg (Prod.mk o.home) (Hub.tally_record_of_none rfl _ _ _)

theorem tally_refer (o : Outlet κ) (e : ProtocolError) :
    (o.refer e).tally = (o.home, (o.hub.tally o.home).refer e) :=
  congrArg (Prod.mk o.home) (o.hub.tally_refer o.home e)

variable [Codec κ]

/-- Every write leaves the tally as it is. -/
theorem law_tally (p : LoopId × Tally → Prop) :
    CallLaw (fun _ => True) (Regardless fun o : Outlet κ => p o.tally) where
  hub o := Hub.law_tally o.home fun s => p (o.home, s)
  good_of_waiting _ _ _ := trivial
  take {_ o} h := by
    unfold Hub.takeInline
    split <;> exact h
  encode {_ _ o} _ h := (congrArg p (tally_call o _ _)).mpr h
  call {_ describe step _ o} _ h := (congrArg p (tally_call o describe step)).mpr h
  flush {_ o} h := (congrArg p (tally_carryOut o .flush)).mpr h
  raise _ _ _ h := h

/-- Application code leaves the tally as it is. -/
theorem rule_tally (p : LoopId × Tally → Prop) :
    Rule (fun _ => True) (Regardless fun o : Outlet κ => p o.tally) where
  toTalkRule := (law_tally p).talk
  close {_ o} h := (congrArg p (tally_carryOut o .close)).mpr h

/-- The codec's reaction adds nothing to the tally but that it was asked for. -/
theorem tally_react (o : Outlet κ) (e : ProtocolError) : (o.react e).tally = (o.refer e).tally :=
  (law_tally (· = (o.refer e).tally)).react e (fun _ {o} h => (tally_carryOut o .close).trans h)
    (.of [] rfl)

end Outlet

namespace Turn

variable {κ σ δ : Type}

/-- Something is known of the tally at the loop of a bridge. -/
def Tallies (p : LoopId × Tally → Prop) (t : Turn κ σ δ) : Prop := p t.outlet.tally

variable [Codec κ] [Connection σ]

/-- Telling the application leaves the tally as it is. -/
theorem tell_tallies (p : LoopId × Tally → Prop) :
    TellRule (fun _ => True) (Tallies p : Turn κ σ δ → Prop) where
  obeys {t} _ := t.bridge.obeys_all
  step hasWriter now a _ _ h := (Outlet.rule_tally p).step hasWriter now a (.of [] h)
  record {e t} he h := by
    have hkept := Hub.tally_record_of_none (Entry.accepted?_of_isReport he) t.hub t.bridge.id
      t.bridge.id
    exact (congrArg (fun s => p (t.bridge.id, s)) hkept).mpr h
  notice _ _ h := h
  advance _ h := h
  session _ h := h
  blueprint h := h

end Turn

end FrameBridge
