import FrameBridge.Proofs.Promises.Fate
import FrameBridge.Proofs.Pushes.Entries

/-!
# The order of push promises

Numbers of promised streams are handed out in increasing order, but the promises are not always
sent in this order: one that was asked for off the loop waits in the queue while the loop sends
others.  That is the only exception as long as the channel takes writes and whoever drives the
bridge applies commands in the order of the queue.

* `Drive.applied`: the commands that a driver applies.
* `Drive.promises_inTurn`: promises are sent in increasing order of their numbers, but for those
  from the queue, which keep their order among themselves and may follow larger ones.
-/

namespace FrameBridge

/-- The driver applies commands in the order of the queue, and application code that it runs
leaves numbers to the bridge. -/
def DriveStep.IsOrderly {κ : Type} : DriveStep κ → Prop
  | .enter e => ∀ a ∈ e.actions, a.LeavesNumbers
  | .apply index => index = 0
  | .use .. | .receive | .drop _ | .dropQueue | .take | .finish .. | .recode _ => True

/-- A script without parts asks for nothing, whatever it is told. -/
theorem Script.obeys_of_silent (allowed : Action → Prop) {s : Script} (hs : s.parts = []) :
    Connection.Obeys allowed s := by
  have hsilent : ∀ (cues : List Cue), Script.playCues cues [] = ([], []) := by
    intro cues
    induction cues with
    | nil => rfl
    | cons cue cues ih => simp only [playCues, playCue, ih, List.append_nil]
  have hrespond : ∀ (s : Script) (c : Callback), s.parts = [] →
      (Connection.respond s c).1.parts = [] ∧ (Connection.respond s c).2 = [] := by
    intro s c hs
    simp only [Connection.respond, hs, hsilent, and_self]
  refine ⟨fun _ ha => absurd ha List.not_mem_nil, fun told => ?_⟩
  induction told generalizing s with
  | nil =>
      intro c a ha
      rw [List.foldl_nil, (hrespond s c hs).2] at ha
      cases ha
  | cons c told ih => exact ih (hrespond s c hs).1

namespace Drive

variable {κ σ δ : Type}

/-- The command that a step of a driver applies. -/
def appliedBy (d : Drive κ σ δ) : DriveStep κ → List Command
  | .apply index => d.commands[index]?.toList
  | .enter _ | .use .. | .receive | .drop _ | .dropQueue | .take | .finish .. | .recode _ => []

variable [Codec κ] [Connection σ]

/-- Everything about the numbers of promised streams that a driver's steps keep in order. -/
structure OnCourse (applied : List Nat) (d : Drive κ σ δ) : Prop where
  outside : d.turn.hub.scope = none
  turn : d.turn.OnCourse applied (numbersOf d.commands)

variable [Decoder δ]

/-- The commands that a driver applies, in order. -/
def applied (rounds : Nat) : List (DriveStep κ) → Drive κ σ δ → List Command
  | [], _ => []
  | s :: steps, d => d.appliedBy s ++ applied rounds steps (d.step rounds s)

namespace OnCourse

variable {before : List Nat} {d : Drive κ σ δ}

/-- The oldest command that was taken out of the queue is applied, if there is one. -/
theorem step_apply (rounds : Nat) (h : d.OnCourse before) :
    (d.step rounds (.apply 0)).OnCourse (before ++ numbersOf (d.appliedBy (.apply 0))) := by
  obtain ⟨hscope, hcourse, hobeys⟩ := h
  cases hcommands : d.commands with
  | nil =>
      simp only [Drive.step, appliedBy, hcommands, List.getElem?_nil, Option.toList_none,
        numbersOf_nil, List.append_nil]
      exact ⟨hscope, hcourse, hobeys⟩
  | cons c rest =>
      have hheld : d.turn.OnCourse before (numbersOf [c] ++ numbersOf rest) := by
        rw [← numbersOf_append, List.singleton_append, ← hcommands]
        exact ⟨hcourse, hobeys⟩
      obtain ⟨hscope', hcourse'⟩ := Turn.onCourse_apply rounds hscope hheld
      simp only [Drive.step, appliedBy, hcommands, List.getElem?_cons_zero, Option.toList_some,
        List.eraseIdx_cons_zero]
      exact ⟨hscope', hcourse'⟩

/-- Whatever else a driver does takes nothing out of turn. -/
theorem step_of_ne_apply (rounds : Nat) (h : d.OnCourse before) {s : DriveStep κ}
    (hs : s.IsOrderly) (hother : ∀ index, s ≠ .apply index) :
    (d.step rounds s).OnCourse before := by
  obtain ⟨hscope, hcourse, hobeys⟩ := h
  have hrule (held : List Nat) : Hub.Rule (Regardless fun h =>
      Outlet.OnCourse before held [] { d.turn.outlet with hub := h }) :=
    Outlet.OnCourse.rule d.turn.outlet
  cases s with
  | apply index => exact absurd rfl (hother index)
  | enter e =>
      obtain ⟨hscope', hcourse'⟩ :=
        (Turn.rule_onCourse before (numbersOf d.commands)).wholeVisit.enterBy rounds hs
          ⟨hscope, hcourse, hobeys⟩
      exact ⟨hscope', hcourse'⟩
  | use target a =>
      exact ⟨Hub.law_scope_none.use _ true .connection a (.of [] hscope),
        (hrule _).use _ true .connection a (.of [] hcourse), hobeys⟩
  | receive =>
      simp only [Drive.step]
      split
      · exact ⟨hscope, hcourse, hobeys⟩
      · rename_i c hub hnext
        obtain ⟨hreceived, hsame⟩ := hcourse.receive hnext
        rw [← numbersOf_append] at hreceived
        exact ⟨hsame.trans hscope, hreceived, hobeys⟩
  | drop index =>
      simp only [Drive.step]
      split
      · exact ⟨hscope, hcourse, hobeys⟩
      · rename_i c hc
        have hfewer : (numbersOf (d.commands.eraseIdx index)).Sublist (numbersOf d.commands) :=
          (List.eraseIdx_sublist d.commands index).filterMap _
        exact ⟨Hub.law_scope_none.abandon (.of [c.promise] hscope),
          (hrule _).abandon (.of [c.promise] (hcourse.drop hfewer)), hobeys⟩
  | dropQueue =>
      exact ⟨Hub.law_scope_none.abandonCommands (.of (_ ++ []) hscope), hcourse.closeMailbox,
        hobeys⟩
  | take =>
      exact ⟨hscope, hcourse.congr rfl rfl rfl (fun _ hsent => hsent) (List.Sublist.refl _), hobeys⟩
  | finish index outcome =>
      simp only [Drive.step]
      split
      · exact ⟨hscope, hcourse, hobeys⟩
      · rename_i f hf
        have hlogged := (Hub.scope_log d.turn.hub ⟨f.promise, outcome⟩).trans hscope
        exact ⟨Hub.law_scope_none.resolve_of_log (.of [] hlogged),
          (hrule _).resolve_of_log (.of [] (hcourse.log _)), hobeys⟩
  | recode codec =>
      exact ⟨hscope, hcourse.congr rfl rfl rfl (fun _ hsent => hsent) (List.Sublist.refl _), hobeys⟩

theorem step (rounds : Nat) (h : d.OnCourse before) {s : DriveStep κ} (hs : s.IsOrderly) :
    (d.step rounds s).OnCourse (before ++ numbersOf (d.appliedBy s)) := by
  cases s with
  | apply index =>
      have hindex : index = 0 := hs
      subst hindex
      exact h.step_apply rounds
  | enter | use | receive | drop | dropQueue | take | finish | recode =>
      rw [appliedBy, numbersOf_nil, List.append_nil]
      exact h.step_of_ne_apply rounds hs nofun

theorem run (rounds : Nat) (h : d.OnCourse before) {steps : List (DriveStep κ)}
    (hsteps : ∀ s ∈ steps, s.IsOrderly) :
    (d.run rounds steps).OnCourse (before ++ numbersOf (applied rounds steps d)) := by
  induction steps generalizing d before with
  | nil =>
      rw [applied, numbersOf_nil, List.append_nil]
      exact h
  | cons s steps ih =>
      have hrest : ∀ s' ∈ steps, s'.IsOrderly := fun s' h => hsteps s' (List.mem_cons_of_mem s h)
      rw [applied, numbersOf_append, ← List.append_assoc]
      exact ih (h.step rounds (hsteps s List.mem_cons_self)) hrest

end OnCourse

omit [Codec κ] [Decoder δ] in
theorem onCourse_start {b : Builder κ σ δ} (hhooks : b.hooks.Obey Action.LeavesNumbers)
    (hblueprint : Connection.Obeys Action.LeavesNumbers b.blueprint) (reactions : List Reaction) :
    (start b reactions).OnCourse [] where
  outside := rfl
  turn := by
    refine ⟨⟨⟨Nat.zero_lt_one, nofun⟩, [], .start _ _, .start _⟩, hhooks, ?_, nofun⟩
    intro s hs
    cases hs
    exact hblueprint

/-- As long as the channel takes writes, push promises reach the codec in increasing order of their
numbers, except that one from the queue may follow larger ones that are not from the queue.  Those
from the queue, which are the numbers of the commands that were applied, are in order among
themselves, and so are the others; and one that is not from the queue is larger than everything
before it.  Of what reaches the codec later the channel takes nothing. -/
theorem promises_inTurn {b : Builder κ σ δ} (hhooks : b.hooks.Obey Action.LeavesNumbers)
    (hblueprint : Connection.Obeys Action.LeavesNumbers b.blueprint) (reactions : List Reaction)
    (rounds : Nat) {steps : List (DriveStep κ)} (hsteps : ∀ s ∈ steps, s.IsOrderly) :
    (numbersOf (applied rounds steps (start b reactions))).Pairwise (· < ·) ∧
      ∃ sent, sent.Pairwise
          (MayPrecede (numbersOf (applied rounds steps (start b reactions)))) ∧
        Sent sent ((start b reactions).run rounds steps).turn.bridge.channel.isActive
          ((start b reactions).run rounds steps).turn.hub.journal
          ((start b reactions).run rounds steps).home := by
  obtain ⟨-, ⟨-, sent, hsent, hturn⟩, -⟩ :=
    (onCourse_start hhooks hblueprint reactions).run rounds hsteps
  exact ⟨hturn.inQueue.sublist (List.sublist_append_left _ _), sent,
    hturn.inOrder.sublist (List.sublist_append_left _ _), hsent⟩

/-- A promise that is asked for off the loop, and another one on the loop before the command from
the queue is applied. -/
def overtaken : List (DriveStep LineCodec) :=
  [.enter .activate, .use none (.push .current .empty .callback "queued"),
    .enter (.write [.write (.push .current .empty)]), .receive, .apply 0]

/-- The promise from the queue follows the other one. -/
theorem promises_inTurn_overtaken :
    promisesEncoded ((start idler []).run 2 overtaken).turn.hub.journal ⟨0⟩ = [4, 2] ∧
      numbersOf (applied 2 overtaken (start idler [])) = [2] ∧
      [4, 2].Pairwise (MayPrecede [2]) := by
  have hencoded :
      promisesEncoded ((start idler []).run 2 overtaken).turn.hub.journal ⟨0⟩ = [4, 2] := by
    decide +kernel
  have happlied : numbersOf (applied 2 overtaken (start idler [])) = [2] := by decide +kernel
  have horderly : ∀ s ∈ overtaken, s.IsOrderly := by
    simp [overtaken, DriveStep.IsOrderly, Entrance.actions, Action.LeavesNumbers,
      Action.choosesNumber]
  obtain ⟨-, sent, hsorted, hsent⟩ :=
    promises_inTurn (b := idler) ⟨nofun, nofun⟩ (Script.obeys_of_silent _ rfl) [] 2 horderly
  have hall : sent = [4, 2] := (hsent.all (by decide +kernel)).trans hencoded
  rw [happlied, hall] at hsorted
  exact ⟨hencoded, happlied, hsorted⟩

/-- Promises that come to nothing since the channel is about to close, whereupon the user of the
first one asks for another. -/
def belated : List (DriveStep LineCodec) :=
  [.enter (.write [.write .close, .handle none false (.push .current .empty .callback "first"),
    .handle none false (.push .current .empty .callback "second"),
    .write (.headers .current .empty false)])]

def again : Reaction := ⟨"first", [{ action := .push .current .empty .callback "third" }]⟩

/-- Push promises need not reach the codec in increasing order of their numbers: one from the queue
may be overtaken while the channel takes writes, and any may be afterwards. -/
theorem promises_notInOrder :
    ((start idler []).run 2 overtaken).turn.bridge.channel.isActive = true ∧
      promisesEncoded ((start idler []).run 2 overtaken).turn.hub.journal ⟨0⟩ = [4, 2] ∧
      promisesEncoded ((start idler [again]).run 2 belated).turn.hub.journal ⟨0⟩ = [2, 6, 4] := by
  decide +kernel

end Drive

end FrameBridge
