import FrameBridge.Bridge.Builder
import FrameBridge.Proofs.Fault.Handling
import FrameBridge.Proofs.Issue.Order
import FrameBridge.Proofs.Law.Deed
import FrameBridge.Rehearsal.LineCodec
import FrameBridge.Rehearsal.Script
import FrameBridge.Rehearsal.ToyDecoder

/-!
# Settled entries

An entry does its own work and then settles.  Handling a fault may leave notifications, routing a
notification may queue commands, and a command may leave a fault again; an entry that returns has
found none of the three at the same moment.  So its scope is left with nothing in it, and the next
entry starts without a fault.

Two ways into a bridge settle nothing: asking for a close, and telling a closed bridge that its
transport is gone.  They leave what they find, and as long as every entry returns they find nothing.
-/

namespace FrameBridge

namespace Outlet

variable {κ : Type}

/-- The loop of the outlet runs. -/
def IsRunning (loop : LoopId) (o : Outlet κ) : Prop :=
  o.home = loop ∧ ∃ waiting, o.hub.scope = some ⟨loop, waiting⟩

/-- Nothing that a bridge does while its loop runs makes another loop run. -/
theorem steady_isRunning (loop : LoopId) : Steady (IsRunning loop : Outlet κ → Prop) where
  hub o := (Hub.law_of_constant (o.home = loop)).and (Hub.law_leftWaiting loop [])
  aside {o h} ha hp := by
    refine ⟨hp.1, ?_⟩
    show ∃ waiting, h.scope = _
    rw [ha.scope]
    exact hp.2
  codec _ _ hp := hp
  buffer _ _ _ hp := hp
  flush hp := hp
  requestClose hp := hp
  leaveWord _ _ _ hp := hp
  markInactive hp := hp
  take {o} hp := by
    obtain ⟨hhome, waiting, hscope⟩ := hp
    refine ⟨hhome, [], ?_⟩
    simp only [Hub.takeInline, hscope]

end Outlet

/-- A way into a bridge that settles before it returns, for a bridge in this state. -/
def Move.Settles (now : Lifecycle) : Move → Prop
  | .enter .close => False
  | .enter .deactivate => now ≠ .closed
  | .enter .activate | .enter (.decode _) | .enter (.event _) | .enter (.write _)
  | .enter (.withConnection _) | .enter (.idle _) | .enter (.exception _) | .apply _ => True

namespace Turn

variable {κ σ δ : Type} {t : Turn κ σ δ}

/-- Nothing was left at the channel for the bridge to handle. -/
def IsClear (t : Turn κ σ δ) : Prop :=
  t.bridge.channel.faults = [] ∧ t.bridge.channel.notifications = []

theorem isClear_of_isSettled (h : t.isSettled = true) : t.IsClear := by
  simp only [isSettled, Bool.and_eq_true, List.isEmpty_iff] at h
  exact ⟨h.1.1, h.1.2⟩

/-- Where the loop of a bridge runs nothing waits inline once everything is settled. -/
theorem scope_of_isSettled {loop : LoopId} (h : t.isSettled = true)
    (hrun : t.outlet.IsRunning loop) : t.hub.scope = some ⟨loop, []⟩ := by
  obtain ⟨-, waiting, hscope⟩ := hrun
  have hscope : t.hub.scope = some ⟨loop, waiting⟩ := hscope
  simp only [isSettled, hscope, Bool.and_eq_true, Option.all_some, List.isEmpty_iff] at h
  rw [hscope, h.2]

/-- What may happen between two entries leaves nothing at the channel. -/
theorem IsClear.between {t' : Turn κ σ δ} (h : t.IsClear) (hb : Between t t') : t'.IsClear := by
  cases hb <;> exact h

/-- Nothing is left at the channel up to the next entry. -/
theorem IsClear.later {t' : Turn κ σ δ} (h : t.IsClear)
    (hlater : Relation.ReflTransGen Between t t') : t'.IsClear := by
  induction hlater with
  | refl => exact h
  | tail _ hb ih => exact ih.between hb

/-- Where nothing waits inline, leaving the loop only brings the scope back that was there before. -/
theorem leaving_of_scope {loop : LoopId} (before : Option Scope)
    (hscope : t.hub.scope = some ⟨loop, []⟩) :
    t.leaving loop before = { t with
      hub := { t.hub with
        scope := if before.any (·.loop == loop) then t.hub.scope else before } } := by
  cases hcurrent : before.any (·.loop == loop) with
  | true => rw [leaving, Hub.leave_of_isCurrent hcurrent, if_pos rfl]
  | false => rw [leaving, Hub.leave_of_idle hcurrent hscope, if_neg Bool.false_ne_true]

variable [Codec κ]

/-- The first write of an entry is refused only for a fault that was there before. -/
theorem write_entered (hfaults : t.bridge.channel.faults = [])
    (hfree : t.hub.isCurrent t.bridge.id = false) (c : Command) :
    t.entered.outlet.write c =
      (t.entered.outlet.encode c.outgoing c.promise).afterEncoding c := by
  have hscope : t.entered.outlet.hub.scope = some ⟨t.bridge.id, []⟩ := by
    simp [entered, outlet, Hub.enter, hfree]
  have hfault : t.entered.outlet.channel.hasFault = false := by
    simp [entered, outlet, Channel.hasFault, hfaults]
  rw [Outlet.write, Outlet.catchUp_of_idle hscope, Outlet.perform, hfault,
    if_neg Bool.false_ne_true]

variable [Connection σ] [Decoder δ]

/-- Settling returns when it finds no fault, no command and no notification at once. -/
theorem isSettled_settle (rounds : Nat) (h : (t.settle rounds).stop = none) :
    (t.settle rounds).state.isSettled = true := by
  induction rounds generalizing t with
  | zero =>
      unfold settle at h ⊢
      split
      · assumption
      · rename_i hnot
        rw [if_neg hnot] at h
        cases h
  | succ rounds ih =>
      unfold settle at h ⊢
      split
      · rename_i fault faults hfaults
        simp only [hfaults] at h
        obtain ⟨hhandled, hrest⟩ := Run.stop_andThen.mp h
        rw [Run.state_andThen hhandled]
        exact ih hrest
      · rename_i hfaults
        simp only [hfaults] at h
        split
        · rename_i hwaits
          rw [if_pos hwaits] at h
          exact ih h
        · rename_i hidle
          rw [if_neg hidle] at h
          split
          · rename_i e notifications hnotifications
            simp only [hnotifications] at h
            obtain ⟨hrouted, hrest⟩ := Run.stop_andThen.mp h
            rw [Run.state_andThen hrouted]
            exact ih hrest
          · rename_i hnotifications
            have hall : t.hub.scope.all (·.inline.isEmpty) = true := by
              cases hscope : t.hub.scope with
              | none => rfl
              | some s => simpa [hscope] using hidle
            simp [isSettled, hfaults, hnotifications, hall]

/-- Settling leaves alone what is settled. -/
theorem settle_of_isSettled (h : t.isSettled = true) (rounds : Nat) :
    t.settle rounds = .done t := by
  cases rounds with
  | zero => rw [settle, if_pos h]
  | succ rounds =>
      simp only [isSettled, Bool.and_eq_true, List.isEmpty_iff] at h
      obtain ⟨⟨hfaults, hnotifications⟩, hscope⟩ := h
      have hidle : t.hub.scope.any (!·.inline.isEmpty) = false := by
        cases hs : t.hub.scope with
        | none => rfl
        | some s => simpa [hs] using hscope
      simp only [settle, hfaults, hidle, hnotifications, Bool.false_eq_true, if_false]

/-- There is nothing to settle after a run that ends settled, however it ends. -/
theorem andThen_settle_of_isSettled {r : Run (Turn κ σ δ)} (h : r.state.isSettled = true)
    (rounds : Nat) : r.andThen (settle rounds) = r := by
  cases r with
  | mk t stop =>
      cases stop with
      | none => exact settle_of_isSettled h rounds
      | some why => rfl

/-- An entry that returns in the scope of its loop has settled. -/
theorem isSettled_enter (rounds : Nat) {body : Turn κ σ δ → Run (Turn κ σ δ)}
    (hcurrent : t.hub.isCurrent t.bridge.id = true) (h : (t.enter rounds body).stop = none) :
    (t.enter rounds body).state.isSettled = true := by
  rw [enter, onLoop_of_isCurrent hcurrent] at h ⊢
  obtain ⟨hbody, hsettle⟩ := Run.stop_andThen.mp h
  rw [Run.state_andThen hbody]
  exact isSettled_settle rounds hsettle

theorem isSettled_move (rounds : Nat) {m : Move} (hm : m.Settles t.bridge.state)
    (hcurrent : t.hub.isCurrent t.bridge.id = true) (h : (t.move rounds m).stop = none) :
    (t.move rounds m).state.isSettled = true := by
  cases m with
  | apply c => exact isSettled_enter rounds hcurrent h
  | enter e =>
      cases e with
      | close => exact hm.elim
      | deactivate =>
          have hopen : ¬ t.bridge.state = .closed := hm
          simp only [move, enterBy, deactivate, if_neg hopen] at h ⊢
          exact isSettled_enter rounds hcurrent h
      | activate | decode | event | write | withConnection | idle | exception =>
          exact isSettled_enter rounds hcurrent h

/-- Whatever is done in the scope of a loop, the loop goes on running. -/
theorem isRunning_move (rounds : Nat) (m : Move) (t : Turn κ σ δ) :
    (t.entered.move rounds m).state.outlet.IsRunning t.bridge.id := by
  have hentered : t.entered.outlet.IsRunning t.bridge.id := by
    refine ⟨rfl, ?_⟩
    obtain ⟨waiting, hscope⟩ := Hub.scope_of_isCurrent t.isCurrent_entered
    exact ⟨waiting, hscope⟩
  have hdeeds := chain_move rounds m t.isCurrent_entered
  exact hdeeds.keeps (P := fun t' => t'.outlet.IsRunning t.bridge.id)
    (fun hdeed hrun => (Outlet.steady_isRunning t.bridge.id).deed hdeed hrun) hentered

/-- A way in that settles nothing leaves the scope and the channel as it found them. -/
theorem kept_of_not_settles (rounds : Nat) {m : Move} (hm : ¬ m.Settles t.bridge.state) :
    (t.move rounds m).state.bridge.channel.faults = t.bridge.channel.faults ∧
      (t.move rounds m).state.bridge.channel.notifications = t.bridge.channel.notifications ∧
      (t.move rounds m).state.hub.scope = t.hub.scope := by
  cases m with
  | apply c => exact (hm trivial).elim
  | enter e =>
      cases e with
      | close =>
          refine ⟨rfl, rfl, ?_⟩
          show (if t.bridge.channel.closeRequested then t.hub else t.hub.notice _).scope = _
          split <;> rfl
      | deactivate =>
          have hclosed : t.bridge.state = .closed := not_not.mp hm
          simp only [move, enterBy, deactivate, if_pos hclosed]
          exact ⟨rfl, rfl, rfl⟩
      | activate | decode | event | write | withConnection | idle | exception =>
          exact (hm trivial).elim

/-- An entry that returns leaves nothing at the channel, if nothing was left there before or if it
settles. -/
theorem isClear_move (rounds : Nat) (m : Move) (hend : (t.move rounds m).stop = none)
    (h : t.IsClear ∨ m.Settles t.bridge.state) : (t.move rounds m).state.IsClear := by
  by_cases hm : m.Settles t.bridge.state
  · rw [move_eq] at hend ⊢
    exact isClear_of_isSettled (t := (t.entered.move rounds m).state)
      (isSettled_move rounds hm t.isCurrent_entered hend)
  · obtain ⟨hfaults, hnotifications, -⟩ := kept_of_not_settles rounds hm
    have hclear : t.IsClear := h.resolve_right hm
    exact ⟨hfaults.trans hclear.1, hnotifications.trans hclear.2⟩

theorem isClear_of_proceeds {b : Builder κ σ δ} {hub : Hub} (h : Proceeds (b.build hub) t) :
    t.IsClear := by
  induction h with
  | refl => exact ⟨rfl, rfl⟩
  | move _ rounds m hend ih => exact isClear_move rounds m hend (.inl ih)
  | between _ hb ih => exact ih.between hb

/-- An entry that returns leaves its scope with nothing in it, if it settles or if its loop did not
run before. -/
theorem scope_inside {rounds : Nat} {m : Move} (hend : (t.entered.move rounds m).stop = none)
    (h : m.Settles t.bridge.state ∨ t.hub.isCurrent t.bridge.id = false) :
    (t.entered.move rounds m).state.hub.scope = some ⟨t.bridge.id, []⟩ := by
  by_cases hm : m.Settles t.bridge.state
  · exact scope_of_isSettled (isSettled_move rounds hm t.isCurrent_entered hend)
      (isRunning_move rounds m t)
  · have hfree := h.resolve_left hm
    obtain ⟨-, -, hkept⟩ := kept_of_not_settles (t := t.entered) rounds hm
    refine hkept.trans ?_
    simp [entered, Hub.enter, hfree]

/-- An entry that returns has left no fault, no notification and no command in its scope.  So
nothing is dropped when the scope is left, and whatever happens until the next entry, the first
write of that entry is not refused.

This holds of every way in that settles, whatever happened to the bridge before, panics included,
and of every other way in as long as all entries of the bridge have returned. -/
theorem settled_of_return {rounds : Nat} {m : Move} (hreturn : (t.move rounds m).stop = none)
    (hway : m.Settles t.bridge.state ∨
      t.hub.isCurrent t.bridge.id = false ∧
        ∃ (b : Builder κ σ δ) (hub : Hub), Proceeds (b.build hub) t) :
    let inside := (t.entered.move rounds m).state
    let after := (t.move rounds m).state
    after = inside.leaving t.bridge.id t.hub.scope ∧
    inside.bridge.channel.faults = [] ∧
    inside.bridge.channel.notifications = [] ∧
    inside.hub.scope = some ⟨t.bridge.id, []⟩ ∧
    after = { inside with
      hub := { inside.hub with
        scope := if t.hub.isCurrent t.bridge.id then inside.hub.scope else t.hub.scope } } ∧
    ∀ later, Relation.ReflTransGen Between after later →
      later.bridge.channel.faults = [] ∧
      later.bridge.channel.notifications = [] ∧
      ∀ c, later.hub.isCurrent later.bridge.id = false →
        later.entered.outlet.write c =
          (later.entered.outlet.encode c.outgoing c.promise).afterEncoding c := by
  intro inside after
  have hafter : after = inside.leaving t.bridge.id t.hub.scope :=
    congrArg Run.state (move_eq rounds t m)
  have hinside : (t.entered.move rounds m).stop = none := by
    rw [move_eq] at hreturn
    exact hreturn
  have hclear : inside.IsClear := by
    refine isClear_move rounds m hinside ?_
    rcases hway with hm | ⟨-, b, hub, hrun⟩
    · exact .inr hm
    · have hbefore : t.IsClear := isClear_of_proceeds hrun
      exact .inl hbefore
  have hscope := scope_inside hinside (hway.imp_right And.left)
  have hkept : after.IsClear := by
    rw [hafter]
    exact hclear
  refine ⟨hafter, hclear.1, hclear.2, hscope, hafter.trans (leaving_of_scope t.hub.scope hscope), ?_⟩
  intro later hlater
  have hclear := hkept.later hlater
  exact ⟨hclear.1, hclear.2, fun c hfree => write_entered hclear.1 hfree c⟩

end Turn

/-- A bridge in whose codec a drain fails.  Its connection asks for a ping when it hears that the
end was announced. -/
def overdrawn : Builder LineCodec Script ToyDecoder where
  codec := { drainFailure := some (.connection .internalError "window") }
  blueprint := { parts := [⟨.goAwaySent, [.handle none false (.ping ⟨1⟩ "late")], 1⟩] }

/-- The moves up to the peer's first settings. -/
def opening : List Move := [.enter .activate, .enter (.event (.frame (.settings .empty)))]

/-- The bridge whose codec is about to fail, with its connection. -/
def overdrawnOpen : Turn LineCodec Script ToyDecoder := ((overdrawn.build {}).moves 9 opening).state

/-- Data that ends its stream. -/
def overdraft : Move := .enter (.write [.write (.data (.id (.ofNat 1)) [0x78] true)])

/-- The data leaves a fault, the fault leaves a notification, and the notification a command that
fails; none of them is there when the entry returns. -/
theorem settled_of_return_overdrawn :
    (overdrawnOpen.move 9 overdraft).stop = none ∧
      overdrawnOpen.hub.isCurrent overdrawnOpen.bridge.id = false ∧
      (overdrawnOpen.entered.move 9 overdraft).state.hub.issued.map (·.label) = ["late"] ∧
      (overdrawnOpen.entered.move 9 overdraft).state.hub.scope =
        some ⟨overdrawnOpen.bridge.id, []⟩ ∧
      (overdrawnOpen.move 9 overdraft).state.bridge.channel.faults = [] ∧
      (overdrawnOpen.move 9 overdraft).state.bridge.channel.notifications = [] := by
  have hopened : ((overdrawn.build {}).moves 9 opening).stop = none := by decide +kernel
  have hreturn : (overdrawnOpen.move 9 overdraft).stop = none := by decide +kernel
  have hfree : overdrawnOpen.hub.isCurrent overdrawnOpen.bridge.id = false := by decide +kernel
  have hlate : (overdrawnOpen.entered.move 9 overdraft).state.hub.issued.map (·.label) =
      ["late"] := by decide +kernel
  have hrun : Turn.Proceeds (overdrawn.build {}) overdrawnOpen :=
    Turn.proceeds_moves 9 opening hopened
  obtain ⟨-, -, -, hscope, -, hlater⟩ :=
    Turn.settled_of_return hreturn (.inr ⟨hfree, overdrawn, {}, hrun⟩)
  obtain ⟨hfaults, hnotifications, -⟩ := hlater _ .refl
  exact ⟨hreturn, hfree, hlate, hscope, hfaults, hnotifications⟩

end FrameBridge
