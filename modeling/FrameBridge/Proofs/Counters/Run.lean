import FrameBridge.Proofs.Counters.Handled

/-!
# Runs are counted

Every way into a bridge counts what it does, and nothing that a driver does in between changes a
counter, apart from the code that runs when a write ends.  Over a whole run the counters are ahead by
one error for each time that the application panicked while it was told of one.
-/

namespace FrameBridge

namespace Turn

variable {κ σ δ : Type} {loop : LoopId} {s : Surplus} {before : Nat} {t : Turn κ σ δ}

/-! ### Entries -/

/-- Neither handles nor callbacks of writes count anything. -/
theorem law_hasSurplus (loop : LoopId) (s : Surplus) (t : Turn κ σ δ) :
    Hub.Law (fun _ => True) (Regardless fun hub => HasSurplus loop s { t with hub }) :=
  Hub.law_tally t.bridge.id fun tally => t.bridge.id = loop ∧ tally.surplus = s

theorem Squares.entered (h : t.Squares loop s before) : t.entered.Squares loop s before := by
  refine h.of_view (view_enter t t.bridge.id) ?_
  obtain ⟨scope, hscope⟩ := t.hub.enter_eq t.bridge.id
  rw [Turn.entered, hscope]
  exact h.surplus

/-- Code that runs in the scope of a loop counts what it does if it does so by itself. -/
theorem Accounts.onLoop {body : Turn κ σ δ → Run (Turn κ σ δ)}
    (hbody : Accounts loop s before (body t.entered)) :
    Accounts loop s before (t.onLoop body) := by
  refine hbody.map (calls_of_view (view_leave _ _ _)) fun s h => ?_
  exact (law_hasSurplus loop s (body t.entered).state).leave (fun _ _ h => h) _ _ h

theorem Squares.call (h : t.Squares loop s before) {α : Type} (describe : α → CodecCall)
    (step : CodecStep κ α) :
    (t.withOutlet (t.outlet.call describe step).2).Squares loop s before :=
  h.of_view (view_call t describe step) (h.surplus.of_tally (Outlet.tally_call _ describe step))

theorem Squares.flush (h : t.Squares loop s before) :
    (t.onOutlet .flush).Squares loop s before :=
  h.of_view t.view_flush (h.surplus.of_tally (Outlet.tally_carryOut t.outlet .flush))

theorem Squares.shut (h : t.Squares loop s before) : t.shut.Squares loop s before := by
  refine h.of_view t.view_shut ?_
  exact (law_hasSurplus loop s (t.onChannel fun c => c.markInactive.1)).resolveAll
    t.bridge.channel.failed_of_mem_markInactive (.of (_ ++ []) h.surplus)

variable [Codec κ]

theorem Squares.letGo (h : t.Squares loop s before) : t.letGo.Squares loop s before :=
  h.catchUp.call _ _

theorem tally_applyUpgrade (t : Turn κ σ δ) : t.applyUpgrade.outlet.tally = t.outlet.tally := by
  have L : Outlet.CallLaw (fun _ => True)
      (Regardless fun o : Outlet κ => o.tally = t.outlet.tally) :=
    Outlet.law_tally (· = t.outlet.tally)
  unfold Turn.applyUpgrade
  split
  · rfl
  · exact L.orRaise (.upgradeServer _) (.of [] rfl)
  · exact L.orRaise .upgradeClient (.of [] rfl)

theorem Squares.applyUpgrade (h : t.Squares loop s before) :
    t.applyUpgrade.Squares loop s before :=
  h.of_view t.view_applyUpgrade (h.surplus.of_tally t.tally_applyUpgrade)

theorem Squares.started (h : t.Squares loop s before) : t.started.Squares loop s before := by
  have hsent : ((t.withOutlet (t.outlet.call (fun _ => .preface)
      (Codec.activate t.bridge.codec)).2).advance .prefaceSent).Squares loop s before :=
    (h.call _ _).of_view (view_advance (by decide) _) (h.call _ _).surplus
  have hflushed := hsent.applyUpgrade.flush
  exact ⟨hflushed.surplus, hflushed.length_le⟩

theorem Squares.decoded (h : t.Squares loop s before) (input : Bytes) :
    (t.decoded input).Squares loop s before := by
  refine h.of_view (view_carryOut t _ _) ?_
  refine h.surplus.of_tally ?_
  exact Outlet.holds_carryOut (Q := fun o => o.tally = t.outlet.tally)
    (fun o r hkept => (Outlet.tally_carryOut o r).trans hkept) _ rfl

theorem Squares.write (h : t.Squares loop s before) (c : Command) :
    (t.onOutlet (·.write c)).Squares loop s before :=
  h.of_view (t.view_write c) (h.surplus.of_tally
    ((Outlet.rule_tally (· = t.outlet.tally)).write trivial (.of [_] rfl)))

variable [Connection σ]

theorem Squares.tearDown (h : t.Squares loop s before) :
    Accounts loop s before t.tearDown :=
  h.shut.sayGoodbye.andThen fun _ h => .done ⟨h.surplus, h.length_le⟩

variable [Decoder δ]

theorem Squares.enter (rounds : Nat) {body : Turn κ σ δ → Run (Turn κ σ δ)}
    (hbody : t.entered.Squares loop s before → Accounts loop s before (body t.entered))
    (h : t.Squares loop s before) : Accounts loop s before (t.enter rounds body) :=
  Accounts.onLoop ((hbody h.entered).andThen fun _ h => h.settle rounds)

/-- Every way into a bridge counts what it does. -/
theorem accounts_move (rounds : Nat) (m : Move) (h : t.HasSurplus loop s) :
    Accounts loop s t.calls.length (t.move rounds m) := by
  have hnow : t.Squares loop s t.calls.length := ⟨h, le_rfl⟩
  have hcalls : t.entered.calls.length = t.calls.length :=
    congrArg List.length (calls_of_view (view_enter t t.bridge.id))
  cases m with
  | apply c =>
      simp only [move, Turn.apply]
      exact hnow.enter rounds fun h => .done (h.write c)
  | enter e =>
      simp only [move, enterBy, activate, decode, handleEvent, Turn.write,
        withConnection, onIdle, exceptionCaught]
      cases e with
      | activate => exact hnow.enter rounds fun h => .done h.started
      | deactivate =>
          show Accounts loop s t.calls.length (t.deactivate rounds)
          unfold deactivate
          split
          · exact .done hnow
          · exact hnow.enter rounds fun h => (h.letGo.settle rounds).andThen fun _ h => h.tearDown
      | close => exact .done hnow.close
      | decode input =>
          refine hnow.enter rounds fun h => .each (fun t e h => ?_) _ (h.decoded input)
          exact (h.route e).andThen fun _ h => h.settle rounds
      | event e => exact hnow.enter rounds fun h => h.route e
      | write actions => exact hnow.enter rounds fun h => h.program hcalls actions
      | withConnection actions => exact hnow.enter rounds fun h => h.program hcalls _
      | idle k =>
          refine hnow.enter rounds fun h => ?_
          cases k with
          | all => exact .done (Squares.close ⟨h.surplus, h.length_le⟩)
          | reader | writer => exact .done ⟨h.surplus, h.length_le⟩
      | exception e => exact hnow.enter rounds fun h => h.onException e

end Turn

namespace Drive

variable {κ σ δ : Type}

/-- What a driver does between two entries counts nothing. -/
theorem hasSurplus_step [Codec κ] [Connection σ] [Decoder δ] (rounds : Nat) {d : Drive κ σ δ}
    {a : DriveStep κ} (ha : d.moveOf a = none) {loop : LoopId} {s : Surplus}
    (h : d.turn.HasSurplus loop s) : (d.step rounds a).turn.HasSurplus loop s := by
  have L := d.turn.law_hasSurplus loop s
  cases a with
  | enter e => cases ha
  | use target a => exact L.use _ true .connection a (.of [] h)
  | receive =>
      simp only [step]
      split
      · exact h
      · rename_i c hub hnext
        obtain ⟨rest, -, rfl⟩ := Hub.eq_of_nextCommand hnext
        exact h
  | apply index =>
      have hnone : d.commands[index]? = none := Option.map_eq_none_iff.mp ha
      simp only [step, hnone]
      exact h
  | drop index =>
      simp only [step]
      split
      · exact h
      · exact L.abandon (.of [_] h)
  | dropQueue => exact L.abandonCommands (.of (_ ++ []) h)
  | take | recode codec => exact h
  | finish index outcome =>
      simp only [step]
      split
      · exact h
      · rename_i f _
        have hlogged := Hub.tally_log d.turn.hub ⟨f.promise, outcome⟩ d.turn.bridge.id
        exact L.resolve_of_log (.of [] (h.of_tally (congrArg (Prod.mk d.turn.bridge.id) hlogged)))

variable [Codec κ] [Connection σ] [Decoder δ]

/-- How often the application panicked in some steps while it was told of an error. -/
def breaks (rounds : Nat) : List (DriveStep κ) → Drive κ σ δ → Nat
  | [], _ => 0
  | a :: steps, d =>
      let broke := (d.moveOf a).any fun m => (d.turn.move rounds m).breaksOff d.turn.calls.length
      (if broke then 1 else 0) + breaks rounds steps (d.step rounds a)

/-- Whatever a driver does, each time that the application panicked about an error leaves one error
counted that was not referred to the codec. -/
theorem hasSurplus_run (rounds : Nat) (steps : List (DriveStep κ)) {d : Drive κ σ δ}
    {loop : LoopId} {s : Surplus} (h : d.turn.HasSurplus loop s) :
    (d.run rounds steps).turn.HasSurplus loop
      { s with errors := s.errors + d.breaks rounds steps } := by
  induction steps generalizing d s with
  | nil =>
      simp only [breaks, Int.natCast_zero, Int.add_zero]
      exact h
  | cons a steps ih =>
      cases hmove : d.moveOf a with
      | none =>
          have hstep := ih (hasSurplus_step rounds hmove h)
          simp only [breaks, hmove, Option.any_none, Bool.false_eq_true, if_false, Nat.zero_add]
          exact hstep
      | some m =>
          have haccounts := (Turn.accounts_move rounds m h).surplus
          rw [← turn_step_of_move rounds hmove] at haccounts
          have hstep := ih haccounts
          simp only [breaks, hmove, Option.any_some]
          cases hbreaks : (d.turn.move rounds m).breaksOff d.turn.calls.length with
          | false =>
              simp only [hbreaks, Bool.false_eq_true, if_false, Nat.zero_add] at hstep ⊢
              exact hstep
          | true =>
              have hsum : s.owing.errors + (breaks rounds steps (d.step rounds a) : Int) =
                  s.errors + ((1 + breaks rounds steps (d.step rounds a) : Nat) : Int) := by
                simp only [Surplus.owing]
                omega
              simp only [hbreaks, if_true, hsum] at hstep ⊢
              exact hstep

end Drive

end FrameBridge
