import FrameBridge.Proofs.Calls.View

/-!
# Lives of bridges

The language of the calls that a bridge makes to its application: nothing at all, or the
birth of the connection, then news, and at last the farewell if the transport goes away.

As long as a bridge is not closed its view is `View.Active`, and afterwards it is
`View.Ended`.  The calls of either are a life.
-/

namespace FrameBridge

/-- Whether a callback brings news to a connection that exists already. -/
def Callback.isNews : Callback → Bool
  | .settings _ | .closed => false
  | .frame _ | .goAway _ | .streamClosed _ | .writabilityChanged _ | .connectionError _
  | .streamError .. => true

/-- A connection at which work handed over from the input side is done at once. -/
def Connection.IsPrompt (σ : Type) [Connection σ] : Prop :=
  ∀ s : σ, Connection.runsHandedOver s = true

/-- The calls to the hooks of a moment, each of them once and in order. -/
def Hooks.callsOf (h : Hooks) (kind : HookKind) : List Call :=
  (List.range (h.of kind).length).map (.hooked kind)

/-- The calls with which a connection comes into being. -/
def birth (hooks : Hooks) (s : Settings) : List Call :=
  .created :: .told (.settings s) :: hooks.callsOf .established

/-- The calls with which a connection comes to its end. -/
def farewell (hooks : Hooks) : List Call :=
  .told .closed :: hooks.callsOf .removed

/-- The calls in the life of a bridge whose first settings are known, if there were any. -/
inductive IsLife (hooks : Hooks) (first : Option Settings) : List Call → Prop
  | unborn : IsLife hooks first []
  | alive {s : Settings} {news : List Callback} (hfirst : first = some s)
      (hnews : ∀ c ∈ news, c.isNews) : IsLife hooks first (birth hooks s ++ news.map .told)
  | gone {s : Settings} {news : List Callback} (hfirst : first = some s)
      (hnews : ∀ c ∈ news, c.isNews) :
      IsLife hooks first (birth hooks s ++ news.map .told ++ farewell hooks)

namespace View

/-- The view after the connection was told of something, if it exists. -/
def told (v : View) (c : Callback) : View :=
  if v.isEstablished then v.andCalls [.told c] else v

/-- The view after the connection came into being. -/
def born (v : View) (s : Settings) : View :=
  { v.andCalls (birth v.hooks s) with isEstablished := true, isFresh := false }

/-- The view after the connection came into being, which had been told of settings `s`, later
ones and news since. -/
def alive (start : View) (s : Settings) (later : List Settings) (news : List Callback) : View :=
  { start with
    isEstablished := true
    isFresh := false
    story := (start.story.andSettings (s :: later)).andCalls
      (birth start.hooks s ++ news.map .told) }

/-- The view after the bridge was closed. -/
def gone (v : View) : View :=
  { v.andCalls (if v.isEstablished then farewell v.hooks else []) with isClosed := true }

/-- A bridge that was just built. -/
structure IsNew (v : View) : Prop where
  isEstablished : v.isEstablished = false
  isFresh : v.isFresh = true
  isClosed : v.isClosed = false

/-- The views of a bridge that is not closed. -/
inductive Active (start : View) : View → Prop
  | unborn : Active start start
  | alive {s : Settings} {later : List Settings} {news : List Callback}
      (hnews : ∀ c ∈ news, c.isNews) : Active start (start.alive s later news)

/-- The views of a bridge that is closed. -/
inductive Ended (start : View) : View → Prop
  | gone {v : View} (h : Active start v) : Ended start v.gone

/-- The views of a bridge. -/
def Standing (start v : View) : Prop := Active start v ∨ Ended start v

variable {start v : View}

theorem Active.isClosed (h : Active start v) (hnew : start.IsNew) : v.isClosed = false := by
  cases h with
  | unborn => exact hnew.isClosed
  | alive hnews => exact hnew.isClosed

theorem Active.told (h : Active start v) (hnew : start.IsNew) {c : Callback} (hc : c.isNews) :
    Active start (v.told c) := by
  cases h with
  | unborn =>
      have hsame : start.told c = start := by simp [View.told, hnew.isEstablished]
      rw [hsame]
      exact .unborn
  | @alive s later news hnews =>
      have hmore : (start.alive s later news).told c = start.alive s later (news ++ [c]) := by
        simp [View.told, View.alive, View.andCalls, Story.andCalls]
      rw [hmore]
      refine .alive fun c' hc' => ?_
      rcases List.mem_append.mp hc' with hold | hlast
      · exact hnews c' hold
      · obtain rfl := List.mem_singleton.mp hlast
        exact hc

/-- Settings that reach an established connection keep a bridge active. -/
theorem Active.arrive (h : Active start v) (hnew : start.IsNew) (hv : v.isEstablished = true)
    (settings : List Settings) :
    Active start (v.andSettings settings) := by
  cases h with
  | unborn =>
      rw [hnew.isEstablished] at hv
      cases hv
  | @alive s later news hnews =>
      have hmore : (start.alive s later news).andSettings settings =
          start.alive s (later ++ settings) news := by
        simp [View.alive, View.andSettings, Story.andCalls, Story.andSettings]
      rw [hmore]
      exact .alive hnews

theorem Ended.isClosed (h : Ended start v) : v.isClosed = true := by
  cases h with
  | gone h => rfl

theorem Standing.loop (h : Standing start v) : v.loop = start.loop := by
  rcases h with (_ | _) | ⟨_ | _⟩
  all_goals rfl

/-- The calls of a bridge in any view are a life. -/
theorem Standing.isLife (h : Standing start v) (hnew : start.IsNew) :
    ∃ calls settings, v.story = (start.story.andSettings settings).andCalls calls ∧
      IsLife start.hooks settings.head? calls := by
  rcases h with hactive | hended
  · cases hactive with
    | unborn => exact ⟨[], [], by simp, .unborn⟩
    | @alive s later news hnews => exact ⟨_, s :: later, rfl, .alive rfl hnews⟩
  · obtain ⟨hactive⟩ := hended
    cases hactive with
    | unborn =>
        refine ⟨[], [], ?_, .unborn⟩
        simp [View.gone, View.andCalls, hnew.isEstablished]
    | @alive s later news hnews =>
        refine ⟨_, s :: later, ?_, .gone rfl hnews⟩
        simp [View.gone, View.alive, View.andCalls]

/-- The farewell is no part of the birth and of the news. -/
theorem count_closed_alive (hooks : Hooks) (s : Settings) {news : List Callback}
    (hnews : ∀ c ∈ news, c.isNews) :
    (birth hooks s ++ news.map Call.told).count (Call.told .closed) = 0 := by
  rw [List.count_eq_zero]
  intro hmem
  rcases List.mem_append.mp hmem with hbirth | htold
  · simp [birth, Hooks.callsOf] at hbirth
  · obtain ⟨c, hc, heq⟩ := List.mem_map.mp htold
    cases heq
    cases hnews _ hc

/-- The farewell tells the connection once that the transport is gone. -/
theorem count_closed_farewell (hooks : Hooks) :
    (farewell hooks).count (.told .closed) = 1 := by
  have hhooks : (hooks.callsOf .removed).count (.told .closed) = 0 := by
    rw [List.count_eq_zero]
    intro hmem
    simp [Hooks.callsOf] at hmem
  rw [farewell, List.count_cons_self, hhooks]

/-- An active bridge has not told the connection that the transport is gone. -/
theorem Active.count_closed (h : Active start v) :
    v.story.calls.count (.told .closed) = start.story.calls.count (.told .closed) := by
  cases h with
  | unborn => rfl
  | @alive s later news hnews =>
      have hnone := count_closed_alive start.hooks s hnews
      have hcalls : (start.alive s later news).story.calls =
          start.story.calls ++ (birth start.hooks s ++ news.map .told) := rfl
      rw [hcalls, List.count_append, hnone, Nat.add_zero]

/-- A bridge that has ended has told the connection once that the transport is gone, if there
was one. -/
theorem Ended.count_closed (h : Ended start v) :
    v.story.calls.count (.told .closed) = start.story.calls.count (.told .closed) +
      if v.isEstablished then 1 else 0 := by
  obtain ⟨hactive⟩ := h
  rename_i v
  have hcalls : v.gone.story.calls = v.story.calls ++
      if v.isEstablished then farewell v.hooks else [] := rfl
  have hsame : v.gone.isEstablished = v.isEstablished := rfl
  rw [hcalls, hsame, List.count_append, hactive.count_closed]
  by_cases hestablished : v.isEstablished = true
  · rw [if_pos hestablished, count_closed_farewell, if_pos hestablished]
  · rw [if_neg hestablished, if_neg hestablished]
    rfl

/-- The first settings that reach a bridge leave it active once the connection came into
being. -/
theorem Active.born (start : View) (s : Settings) :
    Active start ((start.andSettings [s]).born s) := by
  have halive : (start.andSettings [s]).born s = start.alive s [] [] := by
    simp [View.born, View.alive, View.andSettings, View.andCalls]
  rw [halive]
  refine .alive fun c hc => ?_
  cases hc

end View

end FrameBridge
