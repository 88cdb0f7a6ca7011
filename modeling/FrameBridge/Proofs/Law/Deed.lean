import FrameBridge.Bridge.Drive
import FrameBridge.Proofs.Law.Journal
import FrameBridge.Proofs.Law.Steady
import Mathlib.Logic.Relation

/-!
# Deeds

What a bridge does while its loop runs it is one deed after the other, and there are only a few
kinds of them.  An entry enters the scope of the loop, does deeds, and leaves the scope again.

* `Turn.Deed` lists the deeds, and `Turn.Chain` puts them one after the other.
* `Turn.move_eq` and `Turn.chain_move` say that every move is a chain of deeds in the scope of the
  loop.
* `Turn.Course` is all that may happen to a bridge, panics included, and `Turn.Proceeds` what
  happens to it as long as every move comes to its end.
* `Drive.course_run` and `Drive.Returned.proceeds` say the same of the steps of a driver.
* `Outlet.Steady.deed` says that a steady property is kept by every deed.

Nothing is said of the order of deeds, so there are more chains than a bridge can get into.
-/

namespace FrameBridge

namespace Run

variable {α : Type} {r : Run α}

theorem andThen_of_done (h : r.stop = none) (f : α → Run α) : r.andThen f = f r.state := by
  cases r with
  | mk a stop =>
      cases h
      rfl

theorem andThen_of_stopped (h : r.stop ≠ none) (f : α → Run α) : r.andThen f = r := by
  cases r with
  | mk a stop =>
      cases stop with
      | none => exact absurd rfl h
      | some why => rfl

/-- Steps that all come to their end come to it together. -/
theorem stop_each_of_mem {β : Type} {f : α → β → Run α} {bs : List β}
    (h : ∀ b ∈ bs, ∀ a, (f a b).stop = none) {a : α} : (each f bs a).stop = none := by
  induction bs generalizing a with
  | nil => rfl
  | cons b bs ih =>
      have hrest : ∀ b' ∈ bs, ∀ a, (f a b').stop = none :=
        fun b' hb' => h b' (List.mem_cons_of_mem b hb')
      exact stop_andThen.mpr ⟨h b List.mem_cons_self a, ih hrest⟩

/-- What is known of a run that stops, and of what comes after one that does not, is known of both
together. -/
theorem cases_andThen {P : Run α → Prop} {f : α → Run α}
    (hstopped : r.stop ≠ none → P r) (hdone : r.stop = none → P (f r.state)) :
    P (r.andThen f) := by
  by_cases hend : r.stop = none
  · rw [andThen_of_done hend]
    exact hdone hend
  · rw [andThen_of_stopped hend]
    exact hstopped hend

end Run

/-! ### Scopes -/

namespace Hub

variable {h : Hub} {loop : LoopId} {before : Option Scope}

/-- A loop that ran before goes on. -/
theorem leave_of_isCurrent (hb : before.any (·.loop == loop) = true) : h.leave loop before = h :=
  if_pos hb

/-- Where nothing waits inline nothing is dropped when a loop is left. -/
theorem leave_of_idle {home : LoopId} (hb : before.any (·.loop == loop) = false)
    (hs : h.scope = some ⟨home, []⟩) : h.leave loop before = { h with scope := before } := by
  unfold leave
  rw [if_neg (by simp [hb])]
  simp only [takeInline, hs]
  rfl

/-- A change that has nothing to do with the scope may as well be made in the scope of a loop. -/
theorem leave_enter (loop : LoopId) {f : Hub → Hub}
    (hf : ∀ s, f { h with scope := s } = { f h with scope := s }) :
    (f (h.enter loop)).leave loop h.scope = f h := by
  have hkeep : f h = { f h with scope := h.scope } := hf h.scope
  cases hcurrent : h.isCurrent loop with
  | true => rw [leave_of_isCurrent hcurrent, enter, if_pos hcurrent]
  | false =>
      have henter : h.enter loop = { h with scope := some { loop } } := by
        rw [enter, hcurrent, if_neg Bool.false_ne_true]
      rw [henter, hf, leave_of_idle hcurrent rfl]
      exact hkeep.symm

/-- A law of hubs that no scope matters to holds after a loop was left for any other. -/
theorem Law.leave {good : Command → Prop} {p : Hub → Prop} (L : Law good (Regardless p))
    (hscope : ∀ s {h : Hub}, p h → p { h with scope := s }) (loop : LoopId)
    (before : Option Scope) {h : Hub} (hp : p h) : p (h.leave loop before) := by
  unfold Hub.leave
  split
  · exact hp
  · obtain ⟨s, hs⟩ := h.takeInline_eq
    have hoff : p { h with scope := before } := hscope before hp
    have hleft : p { h.takeInline.2 with scope := before } := by
      rw [hs]
      exact hoff
    exact L.abandonCommands (.of (_ ++ []) hleft)

end Hub

namespace Turn

variable {κ σ δ : Type}

/-- The turn in the scope of the bridge's loop. -/
def entered (t : Turn κ σ δ) : Turn κ σ δ := { t with hub := t.hub.enter t.bridge.id }

/-- The turn after a loop was left for the scope that was there before. -/
def leaving (t : Turn κ σ δ) (loop : LoopId) (before : Option Scope) : Turn κ σ δ :=
  { t with hub := t.hub.leave loop before }

theorem isCurrent_entered (t : Turn κ σ δ) : t.entered.hub.isCurrent t.entered.bridge.id = true := by
  unfold entered Hub.enter
  split
  · assumption
  · simp [Hub.isCurrent]

/-- Entering the loop that runs already, and leaving it for itself, changes nothing. -/
theorem onLoop_of_isCurrent {t : Turn κ σ δ} (h : t.hub.isCurrent t.bridge.id = true)
    (body : Turn κ σ δ → Run (Turn κ σ δ)) : t.onLoop body = body t := by
  have henter : t.hub.enter t.bridge.id = t.hub := if_pos h
  have hleave (hub : Hub) : hub.leave t.bridge.id t.hub.scope = hub := if_pos h
  simp only [onLoop, henter, hleave]
  rfl

theorem onLoop_eq (t : Turn κ σ δ) (body : Turn κ σ δ → Run (Turn κ σ δ)) :
    t.onLoop body =
      (t.entered.onLoop body).map fun t' => t'.leaving t.bridge.id t.hub.scope := by
  rw [onLoop_of_isCurrent t.isCurrent_entered]
  rfl

theorem close_eq (t : Turn κ σ δ) :
    t.close = t.entered.close.leaving t.bridge.id t.hub.scope := by
  have hhub := Hub.leave_enter (h := t.hub) t.bridge.id (f := fun h =>
    if t.bridge.channel.closeRequested then h
    else h.notice (.closeRequested t.bridge.channel.pending.length)) (by intro s; split <;> rfl)
  exact congrArg (fun hub => { t.close with hub }) hhub.symm

variable [Codec κ] [Connection σ] [Decoder δ]

theorem enter_eq (rounds : Nat) (t : Turn κ σ δ) (body : Turn κ σ δ → Run (Turn κ σ δ)) :
    t.enter rounds body =
      (t.entered.enter rounds body).map fun t' => t'.leaving t.bridge.id t.hub.scope :=
  t.onLoop_eq _

/-- A move is made in the scope of the loop, which is left when all else is done. -/
theorem move_eq (rounds : Nat) (t : Turn κ σ δ) (m : Move) :
    t.move rounds m =
      (t.entered.move rounds m).map fun t' => t'.leaving t.bridge.id t.hub.scope := by
  cases m with
  | apply c =>
      simp only [move, Turn.apply]
      exact t.enter_eq rounds _
  | enter e =>
      cases e with
      | close => exact congrArg Run.done t.close_eq
      | deactivate =>
          simp only [move, enterBy, deactivate]
          by_cases hclosed : t.bridge.state = .closed
          · have hclosed' : t.entered.bridge.state = .closed := hclosed
            have hsame := Hub.leave_enter (h := t.hub) t.bridge.id (f := id) fun _ => rfl
            rw [if_pos hclosed, if_pos hclosed']
            exact congrArg (fun hub => Run.done { t with hub }) hsame.symm
          · have hclosed' : ¬ t.entered.bridge.state = .closed := hclosed
            rw [if_neg hclosed, if_neg hclosed']
            exact t.enter_eq rounds _
      | activate | decode | event | write | withConnection | idle | exception =>
          simp only [move, enterBy, activate, decode, handleEvent, write, withConnection, onIdle,
            exceptionCaught]
          exact t.enter_eq rounds _

/-! ### Chains of deeds -/

/-- What a bridge may do next in the scope of its loop, and how this ends. -/
inductive Deed (t : Turn κ σ δ) : Run (Turn κ σ δ) → Prop where
  /-- Application code runs with a writer. -/
  | program (actions : List Action) : Deed t (t.program true .connection actions)
  | write (c : Command) : Deed t (.done (t.onOutlet (·.write c)))
  | catchUp : Deed t (.done t.catchUp)
  | notice (n : Notice) : Deed t (.done (t.notice n))
  | flush : Deed t (.done (t.onOutlet .flush))
  | close : Deed t (.done t.close)
  | preface :
      Deed t (.done ((t.onOutlet fun o =>
        (o.call (fun _ => .preface) (Codec.activate o.codec)).2).advance .prefaceSent))
  | upgrade : Deed t (.done t.applyUpgrade)
  /-- The codec takes input in and asks something of the channel. -/
  | decode (input : Bytes) :
      Deed t (.done (t.withOutlet
        ((Codec.decode t.bridge.codec input).requests.foldl Outlet.carryOut
          { t.outlet with codec := (Codec.decode t.bridge.codec input).codec })))
  | takeFault {fault : BridgeError} {faults : List BridgeError}
      (h : t.bridge.channel.faults = fault :: faults) :
      Deed t (.done (t.onChannel ({ · with faults })))
  | takeNotification {e : Event} {notifications : List Event}
      (h : t.bridge.channel.notifications = e :: notifications) :
      Deed t (.done (t.onChannel ({ · with notifications })))
  | onException (e : BridgeError) : Deed t (t.onException e)
  | route (e : Event) : Deed t (t.route e)
  | letGo : Deed t (.done t.letGo)
  | tearDown : Deed t t.tearDown

/-- Deeds one after the other, up to the first that does not come to its end. -/
inductive Chain : Turn κ σ δ → Run (Turn κ σ δ) → Prop where
  | nil (t : Turn κ σ δ) : Chain t (.done t)
  | unsettled (t : Turn κ σ δ) : Chain t (.stopped .unsettled t)
  | last {t : Turn κ σ δ} {r : Run (Turn κ σ δ)} (h : Deed t r) : Chain t r
  | cons {t : Turn κ σ δ} {r r' : Run (Turn κ σ δ)} (h : Deed t r) (hend : r.stop = none)
      (hrest : Chain r.state r') : Chain t r'

namespace Chain

variable {t : Turn κ σ δ} {r : Run (Turn κ σ δ)}

theorem andThen {f : Turn κ σ δ → Run (Turn κ σ δ)} (h : Chain t r)
    (hf : r.stop = none → Chain r.state (f r.state)) : Chain t (r.andThen f) := by
  induction h with
  | nil t => exact hf rfl
  | unsettled t => exact .unsettled t
  | @last t r h =>
      by_cases hend : r.stop = none
      · rw [Run.andThen_of_done hend]
        exact .cons h hend (hf hend)
      · rw [Run.andThen_of_stopped hend]
        exact .last h
  | cons h hend _ ih => exact .cons h hend (ih hf)

/-- What each deed keeps, however it ends, a chain keeps. -/
theorem keeps {P : Turn κ σ δ → Prop} (hP : ∀ {t r}, Deed t r → P t → P r.state) (h : Chain t r)
    (ht : P t) : P r.state := by
  induction h with
  | nil => exact ht
  | unsettled => exact ht
  | last h => exact hP h ht
  | cons h _ _ ih => exact ih (hP h ht)

/-- What each deed keeps that comes to its end, a chain keeps that comes to its end. -/
theorem keeps_of_done {P : Turn κ σ δ → Prop}
    (hP : ∀ {t r}, Deed t r → r.stop = none → P t → P r.state) (h : Chain t r)
    (hend : r.stop = none) (ht : P t) : P r.state := by
  induction h with
  | nil => exact ht
  | unsettled => cases hend
  | last h => exact hP h hend ht
  | cons h hfirst _ ih => exact ih hend (hP h hfirst ht)

end Chain

/-- Settling is a chain of deeds, however many rounds there are. -/
theorem chain_settle (rounds : Nat) (t : Turn κ σ δ) : Chain t (t.settle rounds) := by
  induction rounds generalizing t with
  | zero =>
      unfold settle
      split
      · exact .nil t
      · exact .unsettled t
  | succ rounds ih =>
      unfold settle
      split
      · rename_i fault faults hfaults
        exact .cons (.takeFault hfaults) rfl ((Chain.last (.onException fault)).andThen fun _ => ih _)
      · split
        · exact .cons .catchUp rfl (ih _)
        · split
          · rename_i e notifications hnotifications
            exact .cons (.takeNotification hnotifications) rfl
              ((Chain.last (.route e)).andThen fun _ => ih _)
          · exact .nil t

theorem chain_events (rounds : Nat) (es : List Event) (t : Turn κ σ δ) :
    Chain t (Run.each (fun t e => (t.route e).andThen (settle rounds)) es t) := by
  induction es generalizing t with
  | nil => exact .nil t
  | cons e es ih =>
      have hfirst : Chain t ((t.route e).andThen (settle rounds)) :=
        (Chain.last (.route e)).andThen fun _ => chain_settle rounds _
      exact hfirst.andThen fun _ => ih _

theorem chain_enter (rounds : Nat) {t : Turn κ σ δ} {body : Turn κ σ δ → Run (Turn κ σ δ)}
    (h : t.hub.isCurrent t.bridge.id = true) (hbody : Chain t (body t)) :
    Chain t (t.enter rounds body) := by
  rw [enter, onLoop_of_isCurrent h]
  exact hbody.andThen fun _ => chain_settle rounds _

/-- What is done when the transport comes up is a chain of deeds. -/
theorem chain_started (t : Turn κ σ δ) : Chain t (.done t.started) :=
  .cons .preface rfl (.cons .upgrade rfl (.cons .flush rfl (.last (.notice _))))

/-- A move of a bridge that its loop runs is a chain of deeds. -/
theorem chain_move (rounds : Nat) (m : Move) {t : Turn κ σ δ}
    (h : t.hub.isCurrent t.bridge.id = true) : Chain t (t.move rounds m) := by
  have enters (body : Turn κ σ δ → Run (Turn κ σ δ)) (hbody : Chain t (body t)) :
      Chain t (t.enter rounds body) := chain_enter rounds h hbody
  cases m with
  | apply c => exact enters (fun t => .done (t.onOutlet (·.write c))) (.last (.write c))
  | enter e =>
      simp only [move, enterBy]
      cases e with
      | activate => exact enters _ t.chain_started
      | deactivate =>
          simp only [deactivate]
          split
          · exact .nil t
          · refine enters _ (.cons .letGo rfl ?_)
            exact (chain_settle rounds _).andThen fun _ => .last .tearDown
      | close => exact .last .close
      | decode input =>
          simp only [decode]
          exact enters _ (.cons (.decode input) rfl (chain_events rounds _ _))
      | event e => exact enters _ (.last (.route e))
      | write actions => exact enters _ (.last (.program actions))
      | withConnection actions => exact enters _ (.last (.program _))
      | idle k =>
          refine enters _ ?_
          cases k with
          | all => exact .cons (.notice _) rfl (.last .close)
          | reader | writer => exact .last (.notice _)
      | exception e => exact enters _ (.last (.onException e))

/-! ### Courses -/

/-- What may happen to a bridge between two entries. -/
inductive Between (t : Turn κ σ δ) : Turn κ σ δ → Prop where
  /-- Others are at work at the hub, and enter no accepted frame for the loop of this bridge. -/
  | elsewhere {hub : Hub} {newer : List Record} (hjournal : hub.journal = newer ++ t.hub.journal)
      (hnewer : ∀ r ∈ newer, r.loop = t.bridge.id → r.entry.accepted? = none) :
      Between t { t with hub }
  /-- The flushed frames are taken off the channel. -/
  | take :
      Between t { t with
        bridge := { t.bridge with channel := t.bridge.channel.takeFlushed.2 } }
  /-- The codec is told something from outside. -/
  | recode (codec : κ) : Between t { t with bridge := { t.bridge with codec } }

/-- One thing that may happen to a bridge, whatever its driver does and whoever panics. -/
inductive Step : Turn κ σ δ → Turn κ σ δ → Prop where
  | enter (t : Turn κ σ δ) : Step t t.entered
  | deed {t : Turn κ σ δ} {r : Run (Turn κ σ δ)} (h : Deed t r) : Step t r.state
  | leave (t : Turn κ σ δ) (loop : LoopId) (before : Option Scope) : Step t (t.leaving loop before)
  | between {t t' : Turn κ σ δ} (h : Between t t') : Step t t'

/-- One thing after the other happens to a bridge. -/
abbrev Course : Turn κ σ δ → Turn κ σ δ → Prop := Relation.ReflTransGen Step

/-- Moves that come to their end, and what happens between them. -/
inductive Proceeds (t : Turn κ σ δ) : Turn κ σ δ → Prop where
  | refl : Proceeds t t
  | move {t' : Turn κ σ δ} (h : Proceeds t t') (rounds : Nat) (m : Move)
      (hend : (t'.move rounds m).stop = none) : Proceeds t (t'.move rounds m).state
  | between {t' t'' : Turn κ σ δ} (h : Proceeds t t') (hb : Between t' t'') : Proceeds t t''

/-- A chain of deeds is a course of the bridge. -/
theorem Chain.course {t : Turn κ σ δ} {r : Run (Turn κ σ δ)} (h : Chain t r) : Course t r.state :=
  h.keeps (P := Course t) (fun hdeed hcourse => hcourse.tail (.deed hdeed)) .refl

/-- Every move is a course of the bridge, also if it does not come to its end. -/
theorem course_move (rounds : Nat) (t : Turn κ σ δ) (m : Move) :
    Course t (t.move rounds m).state := by
  rw [move_eq]
  have hin : Course t t.entered := .single (.enter t)
  have hdeeds := (chain_move rounds m t.isCurrent_entered).course
  exact (hin.trans hdeeds).tail (.leave _ t.bridge.id t.hub.scope)

theorem Proceeds.course {t t' : Turn κ σ δ} (h : Proceeds t t') : Course t t' := by
  induction h with
  | refl => exact .refl
  | move _ rounds m _ ih => exact ih.trans (course_move rounds _ m)
  | between _ hb ih => exact ih.tail (.between hb)

theorem Proceeds.trans {t t' t'' : Turn κ σ δ} (h : Proceeds t t') (h' : Proceeds t' t'') :
    Proceeds t t'' := by
  induction h' with
  | refl => exact h
  | move _ rounds m hend ih => exact ih.move rounds m hend
  | between _ hb ih => exact ih.between hb

/-- Moves that all come to their end lead on. -/
theorem proceeds_moves (rounds : Nat) (ms : List Move) {t : Turn κ σ δ}
    (h : (t.moves rounds ms).stop = none) : Proceeds t (t.moves rounds ms).state := by
  induction ms generalizing t with
  | nil => exact .refl
  | cons m ms ih =>
      obtain ⟨hfirst, hrest⟩ := Run.stop_andThen.mp h
      have hstate := Run.state_andThen (f := moves rounds ms) hfirst
      show Proceeds t ((t.move rounds m).andThen (moves rounds ms)).state
      rw [hstate]
      exact (Proceeds.refl.move rounds m hfirst).trans (ih hrest)

/-- What each deed keeps that comes to its end, and what taking frames off and changing the codec
keep, is kept as long as every move comes to its end. -/
theorem Proceeds.keeps {P : Bridge κ σ δ → Prop}
    (hdeed : ∀ {t : Turn κ σ δ} {r}, Deed t r → r.stop = none → P t.bridge → P r.state.bridge)
    (htake : ∀ {b}, P b → P { b with channel := b.channel.takeFlushed.2 })
    (hcodec : ∀ codec {b}, P b → P { b with codec }) {t t' : Turn κ σ δ} (h : Proceeds t t')
    (ht : P t.bridge) : P t'.bridge := by
  induction h with
  | refl => exact ht
  | @move t' _ rounds m hend ih =>
      rw [move_eq] at hend ⊢
      have hchain := chain_move rounds m t'.isCurrent_entered
      have hin : P t'.entered.bridge := ih
      have hkept := hchain.keeps_of_done (P := fun t => P t.bridge) hdeed hend hin
      exact hkept
  | between _ hb ih =>
      cases hb with
      | elsewhere => exact ih
      | take => exact htake ih
      | recode codec => exact hcodec codec ih

end Turn

/-! ### Drivers -/

/-- Whoever uses handles, and whatever writes end, no channel is said to have accepted a frame. -/
theorem Hub.law_newer (older : List Record) :
    Law (fun _ => True) (Regardless fun h => ∃ newer, h.journal = newer ++ older ∧
      ∀ r ∈ newer, r.entry.accepted? = none) := by
  refine law_journal (p := fun j => ∃ newer, j = newer ++ older ∧
    ∀ r ∈ newer, r.entry.accepted? = none) ?_
  rintro r j hr ⟨newer, rfl, hnewer⟩
  refine ⟨r :: newer, rfl, fun r' hr' => ?_⟩
  rcases List.mem_cons.mp hr' with rfl | hr'
  · exact Entry.accepted?_of_isEcho hr
  · exact hnewer r' hr'

theorem Turn.between_of_newer {κ σ δ : Type} {t : Turn κ σ δ} {hub : Hub}
    (h : ∃ newer, hub.journal = newer ++ t.hub.journal ∧
      ∀ r ∈ newer, r.entry.accepted? = none) : Between t { t with hub } := by
  obtain ⟨newer, hjournal, hnewer⟩ := h
  exact .elsewhere hjournal fun r hr _ => hnewer r hr

namespace Drive

variable {κ σ δ : Type}

/-- The move that a step of a driver makes, if it makes one. -/
def moveOf (d : Drive κ σ δ) : DriveStep κ → Option Move
  | .enter e => some (.enter e)
  | .apply index => d.commands[index]?.map .apply
  | .use .. | .receive | .drop _ | .dropQueue | .take | .finish .. | .recode _ => none

variable [Codec κ] [Connection σ] [Decoder δ]

theorem turn_step_of_move (rounds : Nat) {d : Drive κ σ δ} {s : DriveStep κ} {m : Move}
    (h : d.moveOf s = some m) : (d.step rounds s).turn = (d.turn.move rounds m).state := by
  cases s with
  | enter e =>
      cases h
      rfl
  | apply index =>
      simp only [moveOf, Option.map_eq_some_iff] at h
      obtain ⟨c, hc, rfl⟩ := h
      simp only [step, hc]
      rfl
  | use | receive | drop | dropQueue | take | finish | recode => cases h

/-- A step that makes no move happens between two of them. -/
theorem between_step (rounds : Nat) {d : Drive κ σ δ} {s : DriveStep κ} (h : d.moveOf s = none) :
    (d.step rounds s).turn = d.turn ∨ Turn.Between d.turn (d.step rounds s).turn := by
  have L := Hub.law_newer d.turn.hub.journal
  have hstart : ∃ newer, d.turn.hub.journal = newer ++ d.turn.hub.journal ∧
      ∀ r ∈ newer, r.entry.accepted? = none := ⟨[], rfl, fun _ hr => absurd hr List.not_mem_nil⟩
  cases s with
  | enter e => cases h
  | use target a =>
      exact .inr (Turn.between_of_newer (L.use _ true .connection a (.of [] hstart)))
  | receive =>
      simp only [step]
      split
      · exact .inl rfl
      · rename_i c hub hnext
        have hjournal : hub.journal = [] ++ d.turn.hub.journal := by
          obtain ⟨rest, -, rfl⟩ := Hub.eq_of_nextCommand hnext
          rfl
        exact .inr (.elsewhere hjournal fun _ hr => absurd hr List.not_mem_nil)
  | apply index =>
      have hnone : d.commands[index]? = none := Option.map_eq_none_iff.mp h
      left
      simp only [step, hnone]
  | drop index =>
      simp only [step]
      split
      · exact .inl rfl
      · rename_i c _
        exact .inr (Turn.between_of_newer (L.abandon (.of [c.promise] hstart)))
  | dropQueue => exact .inr (Turn.between_of_newer (L.abandonCommands (.of (_ ++ []) hstart)))
  | take => exact .inr .take
  | finish index outcome =>
      simp only [step]
      split
      · exact .inl rfl
      · rename_i f _
        have hlog : ∃ newer, (d.turn.hub.log ⟨f.promise, outcome⟩).journal =
            newer ++ d.turn.hub.journal ∧ ∀ r ∈ newer, r.entry.accepted? = none := by
          unfold Hub.log
          split
          · exact hstart
          · refine ⟨[_], rfl, fun r hr => ?_⟩
            rw [List.mem_singleton.mp hr]
            rfl
        exact .inr (Turn.between_of_newer (L.resolve_of_log (.of [] hlog)))
  | recode codec => exact .inr (.recode codec)

/-- Whatever a driver does is a course of its bridge. -/
theorem course_step (rounds : Nat) (d : Drive κ σ δ) (s : DriveStep κ) :
    Turn.Course d.turn (d.step rounds s).turn := by
  cases hmove : d.moveOf s with
  | some m =>
      rw [turn_step_of_move rounds hmove]
      exact Turn.course_move rounds d.turn m
  | none =>
      rcases between_step rounds hmove with hsame | hbetween
      · rw [hsame]
      · exact .single (.between hbetween)

/-- Whatever a driver does, in any number of steps, is a course of its bridge. -/
theorem course_run (rounds : Nat) (steps : List (DriveStep κ)) (d : Drive κ σ δ) :
    Turn.Course d.turn (d.run rounds steps).turn := by
  induction steps generalizing d with
  | nil => exact .refl
  | cons s steps ih => exact (course_step rounds d s).trans (ih (d.step rounds s))

/-- Every move that a driver made in some steps came to its end. -/
def Returned (rounds : Nat) : List (DriveStep κ) → Drive κ σ δ → Prop
  | [], _ => True
  | s :: steps, d =>
      (∀ m ∈ d.moveOf s, (d.turn.move rounds m).stop = none) ∧
        Returned rounds steps (d.step rounds s)

instance decidableReturned (rounds : Nat) : ∀ (steps : List (DriveStep κ)) (d : Drive κ σ δ),
    Decidable (d.Returned rounds steps)
  | [], _ => .isTrue trivial
  | s :: steps, d =>
      have := decidableReturned rounds steps (d.step rounds s)
      inferInstanceAs (Decidable (_ ∧ _))

/-- Where every move comes to its end the bridge proceeds. -/
theorem Returned.proceeds {rounds : Nat} {steps : List (DriveStep κ)} {d : Drive κ σ δ}
    (h : d.Returned rounds steps) : Turn.Proceeds d.turn (d.run rounds steps).turn := by
  induction steps generalizing d with
  | nil => exact .refl
  | cons s steps ih =>
      obtain ⟨hreturned, hrest⟩ := h
      have hstep : Turn.Proceeds d.turn (d.step rounds s).turn := by
        cases hmove : d.moveOf s with
        | some m =>
            rw [turn_step_of_move rounds hmove]
            exact Turn.Proceeds.refl.move rounds m (hreturned m hmove)
        | none =>
            rcases between_step rounds hmove with hsame | hbetween
            · rw [hsame]
              exact .refl
            · exact Turn.Proceeds.refl.between hbetween
      exact hstep.trans (ih hrest)

end Drive

/-! ### Steady properties -/

namespace Outlet.Steady

variable {κ σ δ : Type} {p : Outlet κ → Prop}

variable [Codec κ]

theorem applyUpgrade (S : Steady p) {t : Turn κ σ δ} (hp : p t.outlet) :
    p t.applyUpgrade.outlet := by
  unfold Turn.applyUpgrade
  split
  · exact hp
  · exact S.mild.orRaise (S.call _ _ hp)
  · exact S.mild.orRaise (S.call _ _ hp)

variable [Connection σ]

theorem tearDown (S : Steady p) {t : Turn κ σ δ} (hp : p t.outlet) :
    p t.tearDown.state.outlet := by
  have hinactive := S.markInactive (o := t.outlet) hp
  have hshut : p t.shut.outlet :=
    S.resolveAll t.bridge.channel.failed_of_mem_markInactive hinactive
  exact Run.holds_andThen (P := fun t : Turn κ σ δ => p t.outlet) (S.rule.sayGoodbye hshut)
    fun t hp => S.aside (.notice _) hp

variable [Decoder δ]

/-- A steady property is kept by every deed, however it ends. -/
theorem deed (S : Steady p) {t : Turn κ σ δ} {r : Run (Turn κ σ δ)} (h : t.Deed r)
    (hp : p t.outlet) : p r.state.outlet := by
  cases h with
  | program actions => exact S.rule.program true .connection (fun _ _ => trivial) hp
  | write c => exact S.law.write (o := t.outlet) trivial (.of [_] hp)
  | catchUp => exact S.rule.catchUp hp
  | notice n => exact S.aside (.notice n) hp
  | flush => exact S.flush hp
  | close => exact S.rule.close hp
  | preface => exact S.call (fun _ => .preface) (Codec.activate t.bridge.codec) hp
  | upgrade => exact S.applyUpgrade hp
  | decode input =>
      exact holds_carryOut (fun _ r hp => S.carryOut r hp) _ (S.codec (o := t.outlet) _ hp)
  | takeFault => exact S.leaveWord (o := t.outlet) _ t.bridge.channel.notifications hp
  | takeNotification => exact S.leaveWord (o := t.outlet) t.bridge.channel.faults _ hp
  | onException e => exact S.rule.onException e hp
  | route e => exact S.rule.route e hp
  | letGo =>
      exact S.call (fun _ => .inactive) (Codec.deactivate t.catchUp.bridge.codec)
        (S.rule.catchUp hp)
  | tearDown => exact S.tearDown hp

/-- A steady property that no scope matters to is kept by every move, however it ends. -/
theorem move (S : Steady p)
    (hscope : ∀ s {o : Outlet κ}, p o → p { o with hub := { o.hub with scope := s } })
    (rounds : Nat) (m : Move) {t : Turn κ σ δ} (hp : p t.outlet) :
    p (t.move rounds m).state.outlet := by
  rw [Turn.move_eq]
  have hin : p t.entered.outlet := by
    obtain ⟨s, hs⟩ := t.hub.enter_eq t.bridge.id
    rw [Turn.entered, hs]
    exact hscope s hp
  have hdone : p (t.entered.move rounds m).state.outlet :=
    (Turn.chain_move rounds m t.isCurrent_entered).keeps (P := fun t => p t.outlet) S.deed hin
  exact (S.hub (t.entered.move rounds m).state.outlet).leave
    (fun s h => hscope s (o := { (t.entered.move rounds m).state.outlet with hub := h }))
    t.bridge.id t.hub.scope hdone

end Outlet.Steady

end FrameBridge
