import FrameBridge.Proofs.Counters.Speech
import FrameBridge.Proofs.Counters.Tally

/-!
# Errors that are handled

An error is counted, told, and then referred to the codec.  A run of a bridge therefore leaves the
counters as far ahead as they were before it, unless the application panics while it is told of an
error: then one error stays counted for good that no codec hears of.
-/

namespace FrameBridge

open Turn

variable {κ σ δ : Type}

/-- Whether a run, before which there were that many calls, ended in a panic out of a call that
tells the connection of an error. -/
def Run.breaksOff (r : Run (Turn κ σ δ)) (before : Nat) : Bool :=
  match r.stop with
  | some (.panicked _) => (r.state.calls.drop before).getLast?.any (·.isErrorNews)
  | some .unsettled | none => false

theorem Run.breaksOff_of_done {r : Run (Turn κ σ δ)} (h : r.stop = none) (before : Nat) :
    r.breaksOff before = false := by
  rw [Run.breaksOff, h]

/-- Where the calls are the same runs end alike if their reasons to stop are the same. -/
theorem Run.breaksOff_map {r : Run (Turn κ σ δ)} {f : Turn κ σ δ → Turn κ σ δ}
    (hf : (f r.state).calls = r.state.calls) (before : Nat) :
    (r.map f).breaksOff before = r.breaksOff before := by
  simp only [Run.breaksOff, Run.stop_map, Run.state_map, hf]

namespace Turn

/-- The counters at the loop of a bridge are ahead by so much. -/
def HasSurplus (loop : LoopId) (s : Surplus) : Turn κ σ δ → Prop :=
  Tallies fun x => x.1 = loop ∧ x.2.surplus = s

/-- What leaves the tally as it is leaves the counters as far ahead as they are. -/
theorem HasSurplus.of_tally {loop : LoopId} {s : Surplus} {t t' : Turn κ σ δ}
    (h : t.HasSurplus loop s) (htally : t'.outlet.tally = t.outlet.tally) :
    t'.HasSurplus loop s :=
  (congrArg (fun x : LoopId × Tally => x.1 = loop ∧ x.2.surplus = s) htally).mpr h

/-- The counters at a loop are ahead by so much, and there were at least so many calls. -/
structure Squares (loop : LoopId) (s : Surplus) (before : Nat) (t : Turn κ σ δ) : Prop where
  surplus : t.HasSurplus loop s
  length_le : before ≤ t.calls.length

/-- A run leaves the counters as far ahead as they were, but for an error that the application
panicked about. -/
structure Accounts (loop : LoopId) (s : Surplus) (before : Nat) (r : Run (Turn κ σ δ)) : Prop where
  surplus : r.state.HasSurplus loop (if r.breaksOff before then s.owing else s)
  length_le : before ≤ r.state.calls.length

variable {loop : LoopId} {s : Surplus} {before : Nat} {t : Turn κ σ δ} {r : Run (Turn κ σ δ)}

/-- A change that nobody is called about keeps what is counted if it counts what it does. -/
theorem Squares.of_view {t' : Turn κ σ δ} (h : t.Squares loop s before) (hview : t'.view = t.view)
    (hsurplus : t'.HasSurplus loop s) : t'.Squares loop s before :=
  ⟨hsurplus, calls_of_view hview ▸ h.length_le⟩

namespace Accounts

theorem done (h : t.Squares loop s before) : Accounts loop s before (.done t) := ⟨h.1, h.2⟩

theorem unsettled (h : t.Squares loop s before) : Accounts loop s before (.stopped .unsettled t) :=
  ⟨h.1, h.2⟩

/-- A run that does not break off leaves the counters where they were. -/
theorem squares (h : Accounts loop s before r) (hr : r.breaksOff before = false) :
    r.state.Squares loop s before := by
  refine ⟨?_, h.length_le⟩
  have hsurplus := h.surplus
  rw [hr] at hsurplus
  exact hsurplus

theorem andThen {f : Turn κ σ δ → Run (Turn κ σ δ)} (h : Accounts loop s before r)
    (hf : ∀ t, t.Squares loop s before → Accounts loop s before (f t)) :
    Accounts loop s before (r.andThen f) :=
  Run.cases_andThen (fun _ => h) fun hend => hf _ (h.squares (Run.breaksOff_of_done hend before))

/-- What everybody keeps who does no more than what nobody is called about is kept after a run. -/
theorem map {f : Turn κ σ δ → Turn κ σ δ} (h : Accounts loop s before r)
    (hcalls : (f r.state).calls = r.state.calls)
    (hsurplus : ∀ s, r.state.HasSurplus loop s → (f r.state).HasSurplus loop s) :
    Accounts loop s before (r.map f) where
  surplus := by
    rw [Run.breaksOff_map hcalls]
    exact hsurplus _ h.surplus
  length_le := by
    rw [Run.state_map, hcalls]
    exact h.length_le

theorem each {β : Type} {f : Turn κ σ δ → β → Run (Turn κ σ δ)}
    (hf : ∀ t b, t.Squares loop s before → Accounts loop s before (f t b)) (bs : List β)
    (h : t.Squares loop s before) : Accounts loop s before (Run.each f bs t) := by
  induction bs generalizing t with
  | nil => exact .done h
  | cons b bs ih => exact (hf t b h).andThen fun _ h => ih h

end Accounts

namespace Says

variable {p : Call → Prop}

/-- The last of the calls since an earlier time is the last of those that the run made. -/
theorem breaksOff (h : Says p t r) (hbefore : before ≤ t.calls.length) {news : Bool}
    (hp : ∀ c, p c → c.isErrorNews = news) (hstop : r.stop ≠ none) : r.breaksOff before = news := by
  obtain ⟨new, hnew, hkind, hlast⟩ := h.made
  obtain ⟨older, c, rfl⟩ := (List.eq_nil_or_concat new).resolve_left (hlast hstop)
  have hdrop : (r.state.calls.drop before).getLast? = some c := by
    rw [hnew, List.drop_append_of_le_length hbefore, List.concat_eq_append, ← List.append_assoc,
      List.getLast?_append_cons]
    rfl
  have hc : c.isErrorNews = news := hp c (hkind c (by simp))
  unfold Run.breaksOff
  cases hr : r.stop with
  | none => exact absurd hr hstop
  | some why =>
      cases why with
      | unsettled => exact absurd hr h.stop
      | panicked m =>
          simp only [hdrop, Option.any_some]
          exact hc

/-- A run that tells nothing of errors keeps what is counted if it counts what it does. -/
theorem accounts (h : Says (·.isErrorNews = false) t r) (ht : t.Squares loop s before)
    (hsurplus : r.state.HasSurplus loop s) : Accounts loop s before r where
  surplus := by
    have hwhole : r.breaksOff before = false := by
      by_cases hstop : r.stop = none
      · exact Run.breaksOff_of_done hstop before
      · exact h.breaksOff ht.length_le (fun _ hc => hc) hstop
    rw [hwhole]
    exact hsurplus
  length_le := ht.length_le.trans h.length_le

end Says

variable [Codec κ] [Connection σ]

/-- The connection is told of something other than an error. -/
theorem Squares.tell {c : Callback} (h : t.Squares loop s before)
    (hc : (Call.told c).isErrorNews = false) : Accounts loop s before (t.tell c) :=
  (says_tell (p := fun c => c.isErrorNews = false) hc t).accounts h
    ((tell_tallies _).tell c h.surplus)

theorem Squares.establish (h : t.Squares loop s before) (blueprint : σ) (settings : Settings) :
    Accounts loop s before (t.establish blueprint settings) := by
  refine (says_establish (fun _ hc => hc) blueprint settings t).accounts h ?_
  have hobeys : Connection.Obeys (fun _ => True) blueprint :=
    ⟨fun _ _ => trivial, fun _ _ _ _ => trivial⟩
  exact (tell_tallies _).establish hobeys settings h.surplus

theorem Squares.sayGoodbye (h : t.Squares loop s before) :
    Accounts loop s before t.sayGoodbye :=
  t.says_sayGoodbye.accounts h ((tell_tallies _).sayGoodbye h.surplus)

/-- Application code that runs with a writer makes no call. -/
theorem Squares.program (h : t.Squares loop s before) (hlength : t.calls.length = before)
    (actions : List Action) : Accounts loop s before (t.program true .connection actions) where
  surplus := by
    have hcalls := calls_of_view (view_program true .connection actions t)
    have hwhole : (t.program true .connection actions).breaksOff before = false := by
      unfold Run.breaksOff
      split
      · rw [hcalls, ← hlength, List.drop_length]
        rfl
      all_goals rfl
    rw [hwhole]
    exact (tell_tallies _).program true .connection (fun _ _ => trivial) h.surplus
  length_le := (calls_of_view (view_program true .connection actions t)).symm ▸ h.length_le

omit [Connection σ] in
theorem tally_catchUp (t : Turn κ σ δ) : t.catchUp.outlet.tally = t.outlet.tally :=
  (Outlet.rule_tally (· = t.outlet.tally)).catchUp (.of [] rfl)

omit [Connection σ] in
theorem Squares.catchUp (h : t.Squares loop s before) : t.catchUp.Squares loop s before :=
  h.of_view t.view_catchUp (h.surplus.of_tally t.tally_catchUp)

omit [Codec κ] [Connection σ] in
theorem Squares.close (h : t.Squares loop s before) : t.close.Squares loop s before :=
  h.of_view t.view_close (h.surplus.of_tally (Outlet.tally_carryOut t.outlet .close))

omit [Codec κ] [Connection σ] in
theorem Squares.channel (h : t.Squares loop s before) (faults : List BridgeError)
    (notifications : List Event) :
    (t.onChannel ({ · with faults, notifications })).Squares loop s before :=
  ⟨h.surplus, h.length_le⟩

theorem tally_announce (t : Turn κ σ δ) (e : ProtocolError) :
    (t.announce e).state.outlet.tally = t.outlet.tally :=
  (tell_tallies (· = t.outlet.tally)).announce e rfl

/-- Once the connection was told of a violation the codec is asked to react to it. -/
theorem tally_reacted (t : Turn κ σ δ) (e : ProtocolError) :
    ((t.announce e).state.catchUp.outlet.react e).tally =
      (t.bridge.id, (t.hub.tally t.bridge.id).refer e) := by
  have hready := (t.announce e).state.tally_catchUp.trans (t.tally_announce e)
  obtain ⟨hhome, hsame⟩ := Prod.mk.inj hready
  refine (Outlet.tally_react _ e).trans ((Outlet.tally_refer _ e).trans ?_)
  exact Prod.ext hhome (congrArg (Tally.refer e) hsame)

/-- A violation is told, and referred to the codec unless the application panics. -/
theorem tally_onError (t : Turn κ σ δ) (e : ProtocolError) :
    (t.onError e).state.outlet.tally =
      (t.bridge.id, if (t.onError e).stop = none then (t.hub.tally t.bridge.id).refer e
        else t.hub.tally t.bridge.id) := by
  unfold Turn.onError
  by_cases hend : (t.announce e).stop = none
  · rw [Run.andThen_of_done hend, Run.stop_done, if_pos rfl]
    exact t.tally_reacted e
  · rw [Run.andThen_of_stopped hend, if_neg hend]
    exact t.tally_announce e

/-- A violation that is counted is told, and then no longer owed to the codec. -/
theorem Squares.onError (h : t.Squares loop s.owing before) (e : ProtocolError) :
    Accounts loop s before (t.onError e) := by
  have htold := t.says_announce e
  have hlength := h.length_le.trans htold.length_le
  refine Run.cases_andThen (fun hstop => ⟨?_, hlength⟩) fun _ => .done ⟨?_, ?_⟩
  · rw [htold.breaksOff h.length_le (fun _ hc => hc) hstop, if_pos rfl]
    exact h.surplus.of_tally (t.tally_announce e)
  · obtain ⟨hhome, howed⟩ := h.surplus
    have hreferred := Tally.surplus_refer e (t.hub.tally t.bridge.id)
    refine (congrArg (fun x : LoopId × Tally => x.1 = loop ∧ x.2.surplus = s)
      (t.tally_reacted e)).mpr ⟨hhome, ?_⟩
    exact Surplus.owing_injective (hreferred.trans howed)
  · rw [calls_of_view (view_react _ e), calls_of_view (view_catchUp _)]
    exact hlength

omit [Codec κ] [Connection σ] in
/-- An error that is counted, under whatever label, is owed to the codec. -/
theorem Squares.count (h : t.Squares loop s before) {l : ErrorLabel} (hl : l ≠ .panic) :
    (t.meter (·.countError l)).Squares loop s.owing before := by
  obtain ⟨hhome, hsurplus⟩ := h.surplus
  refine ⟨⟨hhome, ?_⟩, h.length_le⟩
  have hcounted := t.hub.tally_countError l t.bridge.id
  exact (congrArg Tally.surplus hcounted).trans
    ((Tally.surplus_count hl _).trans (congrArg Surplus.owing hsurplus))

theorem Squares.onViolation (h : t.Squares loop s before) (e : ProtocolError) :
    Accounts loop s before (t.onViolation e) :=
  (h.count (l := .protocol) (by decide)).onError e

/-- An error that is handled is counted once, and an error that is ignored is not. -/
theorem Squares.onException (h : t.Squares loop s before) (e : BridgeError) :
    Accounts loop s before (t.onException e) := by
  have hreported : (t.reportException e).Squares loop s.owing before := by
    unfold reportException
    split
    · exact Squares.count (t := t.notice _) ⟨h.surplus, h.length_le⟩ (by decide)
    · exact Squares.count (t := t.notice _) ⟨h.surplus, h.length_le⟩ (by decide)
  unfold Turn.onException
  split
  · exact .done ⟨h.surplus, h.length_le⟩
  · exact (hreported.onError _).andThen fun _ h => .done h.close

theorem Squares.onEarlyFrame (h : t.Squares loop s before) (f : Frame) :
    Accounts loop s before (t.onEarlyFrame f) := by
  unfold Turn.onEarlyFrame
  split
  · exact h.establish _ _
  · exact h.onException _
  · split
    · exact h.onException _
    · exact h.onException _

variable [Decoder δ]

omit [Decoder δ] in
/-- What the listener answers is counted nowhere. -/
theorem Squares.afterListening (h : t.Squares loop s before) {session : Session σ δ}
    (hsession : t.bridge.session = some session) (id : StreamId) (p : Processed δ) :
    (t.afterListening session id p).Squares loop s before := by
  have hanswers : Connection.Answers (fun _ => True) session.connection := fun _ _ _ _ => trivial
  exact h.of_view (view_afterListening hsession id p)
    ((tell_tallies _).afterListening hanswers id p h.surplus)

theorem Squares.onFrame (h : t.Squares loop s before) (f : Frame) :
    Accounts loop s before (t.onFrame f) := by
  unfold Turn.onFrame
  split
  · exact h.onEarlyFrame f
  · rename_i session hsession
    split
    · exact h.tell rfl
    · have hheard := h.afterListening hsession
      refine Accounts.andThen (.each (fun t f h => h.tell rfl) _ (hheard _ _)) ?_
      intro t h
      split
      · exact .done h
      · exact h.onViolation _

omit [Decoder δ] in
theorem Squares.tellOr (h : t.Squares loop s before) {c : Callback}
    (hc : (Call.told c).isErrorNews = false) (n : Notice) :
    Accounts loop s before (t.tellOr c n) := by
  unfold Turn.tellOr
  split
  · exact h.tell hc
  · exact .done ⟨h.surplus, h.length_le⟩

omit [Decoder δ] in
theorem Squares.onStreamChange (h : t.Squares loop s before) (change : StreamChange)
    (id : StreamId) : Accounts loop s before (t.onStreamChange change id) := by
  unfold Turn.onStreamChange
  split
  · exact Squares.tell (t := { t with bridge := _ }) ⟨h.surplus, h.length_le⟩ rfl
  · exact .done ⟨h.surplus, h.length_le⟩
  all_goals exact .done h

/-- An event is counted before it is looked at, if it brings a frame. -/
theorem Squares.route (h : t.Squares loop s before) (e : Event) :
    Accounts loop s before (t.route e) := by
  have harrived (he : e.frame? = none) :
      Turn.Squares loop s before { t with hub := t.hub.arrive t.bridge.id e } :=
    ⟨h.surplus.of_tally (congrArg (Prod.mk t.bridge.id) (Hub.tally_arrive he t.hub t.bridge.id)),
      h.length_le⟩
  unfold Turn.route
  split
  · exact .done ⟨h.surplus, h.length_le⟩
  · cases e with
    | frame f =>
        have hcounted := Hub.tally_arrive_frame t.hub t.bridge.id f
        exact Squares.onFrame (t := Turn.meter { t with hub := _ } _)
          ⟨h.surplus.of_tally (congrArg (Prod.mk t.bridge.id) hcounted), h.length_le⟩ f
    | stream change id => exact (harrived rfl).onStreamChange change id
    | goAway g => exact (harrived rfl).tellOr rfl _
    | writabilityChanged id => exact (harrived rfl).tellOr rfl _
    | error e => exact (harrived rfl).onViolation e

/-- Everything that is settled is counted, however many rounds there are. -/
theorem Squares.settle (rounds : Nat) (h : t.Squares loop s before) :
    Accounts loop s before (t.settle rounds) := by
  induction rounds generalizing t with
  | zero =>
      unfold Turn.settle
      split
      · exact .done h
      · exact .unsettled h
  | succ rounds ih =>
      unfold Turn.settle
      split
      · exact ((h.channel _ _).onException _).andThen fun _ h => ih h
      · split
        · exact ih h.catchUp
        · split
          · exact ((h.channel _ _).route _).andThen fun _ h => ih h
          · exact .done h

end Turn

end FrameBridge
