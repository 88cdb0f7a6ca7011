import FrameBridge.Proofs.Delivery.Cover

/-!
# Up to the end

As long as the transport is up nothing that a bridge does shuts its channel or reports its end.
The end is reported as the first thing when the bridge is told that its transport is gone, and
the channel is shut before this comes to its own end.
-/

namespace FrameBridge

theorem Hub.law_hasNoEnd (loop : LoopId) :
    Law (fun _ => True) (Regardless fun h => HasNoEnd h.journal loop) :=
  law_journal (p := (HasNoEnd · loop)) fun _ _ hr h => h.cons (Entry.isEnd_of_isEcho hr)

/-- Whatever the users of handles and the callbacks of writes do, the journal only grows. -/
theorem Hub.law_suffix (older : List Record) :
    Law (fun _ => True) (Regardless fun h => older <:+ h.journal) :=
  law_journal fun r _ _ h => h.trans (List.suffix_cons r _)

namespace Outlet

variable {κ : Type}

/-- The channel of an outlet is open, and the end of the bridge of a loop is not reported. -/
def IsUp (loop : LoopId) (o : Outlet κ) : Prop :=
  o.channel.isOpen = true ∧ HasNoEnd o.hub.journal loop

theorem isUp_close {loop : LoopId} {o : Outlet κ} (h : o.IsUp loop) : o.close.IsUp loop := by
  refine ⟨h.1, ?_⟩
  unfold close
  simp only
  split
  · exact h.2
  · exact h.2

theorem isUp_carryOut {loop : LoopId} (o : Outlet κ) (r : ChannelRequest) (h : o.IsUp loop) :
    (o.carryOut r).IsUp loop := by
  cases r with
  | write bytes p =>
      refine ⟨(isOpen_carryOut o _).trans h.1, ?_⟩
      have hended := Channel.failed_of_mem_write o.channel ⟨bytes, p⟩
      refine (Hub.law_hasNoEnd loop).resolveAll hended (.of (_ ++ []) ?_)
      split
      · exact h.2.cons rfl
      · exact h.2
  | notify e | raise e => exact h
  | flush => exact ⟨h.1, h.2.cons rfl⟩
  | close => exact isUp_close h

variable [Codec κ]

/-- A call to the codec is not the one that reports the end. -/
theorem isEnd_of_isAnswer {c : κ} {α : Type} {describe : α → CodecCall} {s : CodecStep κ α}
    (h : Codec.IsAnswer c describe s) : (Entry.codec (describe s.result)).isEnd = false := by
  cases h <;> rfl

theorem law_isUp (loop : LoopId) :
    Law (fun _ => True) (Regardless (IsUp loop : Outlet κ → Prop)) where
  hub o := (Hub.law_of_constant (o.channel.isOpen = true)).and (Hub.law_hasNoEnd loop)
  good_of_waiting _ _ _ := trivial
  take {ps o} h := by
    obtain ⟨s, hs⟩ := o.hub.takeInline_eq
    rw [hs]
    exact h
  encode _ h := holds_carryOut isUp_carryOut _ ⟨h.1, h.2.cons rfl⟩
  call hs h := holds_carryOut isUp_carryOut _ ⟨h.1, h.2.cons (isEnd_of_isAnswer hs)⟩
  refer _ _ _ h := h
  flush h := ⟨h.1, h.2.cons rfl⟩
  close h := isUp_close h
  raise _ _ _ h := h

theorem law_suffix (older : List Record) : LineLaw (fun _ => True) (fun _ => True)
    (Regardless fun o : Outlet LineCodec => older <:+ o.hub.journal) :=
  (law_journal fun r _ _ h => h.trans (List.suffix_cons r _)).line

end Outlet

namespace Turn

variable {κ σ δ : Type} [Codec κ]

/-- As long as its transport is up a bridge does nothing that ends it. -/
theorem law_isUp (loop : LoopId) :
    Law (fun _ => True) (Regardless fun t : Turn κ σ δ => t.outlet.IsUp loop) where
  outlet _ := Outlet.law_isUp loop
  record he h := ⟨h.1, h.2.cons (Entry.isEnd_of_isReport he)⟩
  notice _ _ _ h := h
  meter _ _ _ h := h
  arrive _ _ _ h := h
  advance _ h := h
  session _ _ _ h := h
  blueprint h := h
  upgrade h := h
  channel _ _ _ _ h := h
  decoded _ _ _ h := Outlet.holds_carryOut Outlet.isUp_carryOut _ h
  enterScope {ps t} _ h := by
    obtain ⟨s, hs⟩ := t.hub.enter_eq t.bridge.id
    rw [hs]
    exact h
  leaveScope {ps t} h := by
    obtain ⟨s, hs⟩ := t.hub.takeInline_eq
    rw [hs]
    exact h

/-- The journal only grows. -/
theorem law_suffix (older : List Record) :
    WholeLaw (fun _ => True) (Regardless fun t : Turn LineCodec σ δ => older <:+ t.hub.journal) :=
  (Outlet.law_suffix older).turn

variable [Connection σ]

theorem isShut_tearDown (t : Turn κ σ δ) : t.tearDown.state.bridge.channel.isOpen = false := by
  -- The channel is shut before the application hears of it, and nothing opens it again.
  have hbye : t.shut.sayGoodbye.state.bridge.channel.isOpen = false := isOpen_sayGoodbye rfl
  exact Run.holds_andThen_state (P := fun t : Turn κ σ δ => t.bridge.channel.isOpen = false)
    hbye hbye

variable [Decoder δ]

/-- A bridge that came to its end has shut its channel. -/
theorem isShut_deactivate {t : Turn κ σ δ} (rounds : Nat) (hscope : t.hub.scope = none)
    (hclosed : t.bridge.state = .closed → t.bridge.channel.isOpen = false)
    (hstop : (t.deactivate rounds).stop = none) :
    (t.deactivate rounds).state.bridge.channel.isOpen = false := by
  unfold deactivate at hstop ⊢
  split at hstop
  · rename_i hstate
    rw [if_pos hstate]
    exact hclosed hstate
  · rename_i hstate
    rw [if_neg hstate]
    obtain ⟨hbody, -⟩ := Run.stop_andThen.mp hstop
    obtain ⟨hsettled, -⟩ := Run.stop_andThen.mp hbody
    refine law_isShut.enter rounds hscope (.of [] ?_)
    rw [Run.state_andThen hsettled]
    exact isShut_tearDown _

/-- The first thing that happens to a bridge that is told of its end is that this is reported. -/
theorem journal_deactivate {t : Turn LineCodec σ δ} (rounds : Nat) (hscope : t.hub.scope = none)
    (hstate : t.bridge.state ≠ .closed) :
    (⟨t.bridge.id, .codec .inactive⟩ :: t.hub.journal : List Record) <:+
      (t.deactivate rounds).state.hub.journal := by
  have hentered : t.hub.enter t.bridge.id = { t.hub with scope := some ⟨t.bridge.id, []⟩ } := by
    simp [Hub.enter, Hub.isCurrent, hscope]
  -- No command can wait in a scope that was just entered, so nothing comes before the report.
  have hidle : (Turn.outlet { t with hub := t.hub.enter t.bridge.id }).catchUp =
      Turn.outlet { t with hub := t.hub.enter t.bridge.id } := by
    rw [hentered]
    exact Outlet.catchUp_of_idle rfl
  have hgone : (⟨t.bridge.id, .codec .inactive⟩ :: t.hub.journal : List Record) <:+
      (letGo { t with hub := t.hub.enter t.bridge.id }).hub.journal := by
    unfold letGo catchUp onOutlet
    rw [hidle, hentered]
    exact (Outlet.law_suffix _).carryOut_of_isQuiet (LineCodec.isQuiet_deactivate t.bridge.codec)
      (.of [] List.suffix_rfl)
  have T := law_suffix (σ := σ) (δ := δ)
    (⟨t.bridge.id, .codec .inactive⟩ :: t.hub.journal : List Record)
  unfold deactivate
  rw [if_neg hstate]
  refine T.enter rounds hscope (.of [] ?_)
  exact Run.holds_andThen (T.settle rounds (.of [] hgone)) fun t h => T.tearDown h

end Turn

end FrameBridge
