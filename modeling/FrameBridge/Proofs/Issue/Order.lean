import FrameBridge.Bridge.Builder
import FrameBridge.Proofs.Issue.Tracks
import FrameBridge.Rehearsal.LineCodec
import FrameBridge.Rehearsal.Script
import FrameBridge.Rehearsal.ToyDecoder

/-!
# The order of issue

Application code may mix writes through its writer with writes through the handle of its own
bridge, and the latter wait in a queue until the next write of the writer or the end of the
callback.  The codec still gets everything in the order in which it was issued, as if every
write had been made through the writer.
-/

namespace FrameBridge

/-- Code that runs on a loop runs in its scope. -/
theorem Hub.scope_of_isCurrent {h : Hub} {loop : LoopId} (hcurrent : h.isCurrent loop = true) :
    ∃ inline, h.scope = some ⟨loop, inline⟩ := by
  cases hscope : h.scope with
  | none => simp [isCurrent, hscope] at hcurrent
  | some s =>
      have hloop : s.loop = loop := by simpa [isCurrent, hscope] using hcurrent
      exact ⟨s.inline, by rw [← hloop]⟩

namespace Turn

open Outlet

variable {κ σ δ : Type}

/-- What was issued before on the loop of the bridge and waits. -/
def issueLog (t : Turn κ σ δ) : IssueLog :=
  ⟨(t.hub.mailbox t.bridge.id).streams, t.hub.takeInline.1.map .write⟩

variable [Codec κ]

/-- The bridge after application code that was given a writer, and after the writes that still
waited then. -/
def played (now : StreamId) (actions : List Action) (t : Turn κ σ δ) : Turn κ σ δ :=
  (t.program true now actions).state.catchUp

/-- Application code may mix writes through its writer with writes through the handle of its own
bridge in any way.  As long as no write fails and the transport is not asked to close, and no code
waits behind the label of a push promise that is refused at once:

* the codec is called for everything that was issued and for nothing else, in the order of issue;
* everything behind the handle is as if each write had been made through the writer;
* no queue for code that runs elsewhere has changed. -/
theorem program_inOrder (hblind : Codec.IsBlind κ) {t : Turn κ σ δ} (now : StreamId)
    {actions : List Action} (hindex : t.bridge.id.index < t.hub.mailboxes.length)
    (hcurrent : t.hub.isCurrent t.bridge.id = true)
    (hown : ∀ a ∈ actions, a.IsOwn t.bridge.id)
    (hcode : ∀ label ∈ t.issueLog.refusals now actions, ∀ r ∈ t.hub.reactions, r.label ≠ label)
    (hcalm : (t.played now actions).outlet.IsCalm) :
    (∃ made, IsTranscript (t.issueLog.program now actions).issued made ∧
      (t.played now actions).hub.codecCalls t.bridge.id =
        t.hub.codecCalls t.bridge.id ++ made) ∧
    (t.played now (actions.map Action.direct)).outlet.view = (t.played now actions).outlet.view ∧
    ∀ loop, ((t.played now actions).hub.mailbox loop).queue = (t.hub.mailbox loop).queue := by
  obtain ⟨inline, hscope⟩ := Hub.scope_of_isCurrent hcurrent
  have hlog : t.issueLog = ⟨(t.hub.mailbox t.bridge.id).streams, inline.map .write⟩ := by
    simp [issueLog, Hub.takeInline, hscope]
  have hstart : (t.outlet.waitingFor []).Tracks t.issueLog t.outlet := by
    rw [hlog]
    exact Tracks.waiting hindex inline hscope
  -- The program and its direct form issue the same, so both keep up with one log.
  have T := hstart.program hblind hindex now hown hcode
  have hown' : ∀ a ∈ actions.map Action.direct, a.IsOwn t.bridge.id := by
    intro a ha
    obtain ⟨a', ha', rfl⟩ := List.mem_map.mp ha
    exact Action.isOwn_direct (hown a' ha')
  have hcode' : ∀ label ∈ t.issueLog.refusals now (actions.map Action.direct),
      ∀ r ∈ t.hub.reactions, r.label ≠ label := by
    rw [IssueLog.refusals_direct]
    exact fun _ hlabel => absurd hlabel List.not_mem_nil
  have T' := hstart.program hblind hindex now hown' hcode'
  rw [IssueLog.program_direct] at T'
  obtain ⟨hserved, hview⟩ := T.view_catchUp hcalm
  -- What was issued, done at once, is calm, and calmness can be told at sight.
  have hcalm' : (t.played now (actions.map Action.direct)).outlet.IsCalm := by
    have hsight := T'.sight
    rw [sight_of_calm hserved] at hsight
    exact (calm_of_sight hsight).1
  obtain ⟨-, hview'⟩ := T'.view_catchUp hcalm'
  refine ⟨?_, hview'.trans hview.symm, T.queue_catchUp hcalm⟩
  obtain ⟨made, hmade, hcalls⟩ := transcript_foldl_serve hserved
  refine ⟨made, hmade, ?_⟩
  have hhome : (t.played now actions).bridge.id = t.bridge.id :=
    (congrArg View.home hview).trans (congrArg Bonds.home (bonds_foldl_serve hserved))
  have hall : (t.played now actions).hub.codecCalls (t.played now actions).bridge.id =
      t.hub.codecCalls t.bridge.id ++ made := (congrArg View.calls hview).trans hcalls
  rw [hhome] at hall
  exact hall

end Turn

theorem LineCodec.isBlind : Codec.IsBlind LineCodec :=
  fun _ _ _ _ => ⟨rfl, rfl⟩

/-- A bridge over a codec of lines that its loop has entered. -/
def entered : Turn LineCodec Script ToyDecoder :=
  let t := Builder.build { codec := {}, blueprint := {} } {}
  { t with hub := t.hub.enter t.bridge.id }

/-- Writes of either kind, among them two push promises and data that ends its stream. -/
def mixed : List Action :=
  [.handle none false (.ping ⟨1⟩ "first"), .write (.push .current .empty),
    .handle (some ⟨0⟩) false (.push .current .empty .callback "second"),
    .write (.consume .current 5), .handle none false (.data .current [] true),
    .write (.settings .empty none)]

theorem program_inOrder_mixed :
    entered.hub.isCurrent entered.bridge.id = true ∧
      (entered.played (.ofNat 1) mixed).outlet.IsCalm ∧
      (entered.played (.ofNat 1) mixed).hub.codecCalls ⟨0⟩ =
        [.encode (.ping false ⟨1⟩), .encode (.pushPromise (.ofNat 1) (.ofNat 2) .empty 0),
          .encode (.pushPromise (.ofNat 1) (.ofNat 4) .empty 0),
          .consume (.ofNat 1) 5 (.ok true), .encode (.data (.ofNat 1) [] 0 true),
          .drain (.ok ()), .encode (.settings .empty)] ∧
      (entered.played (.ofNat 1) (mixed.map Action.direct)).outlet.view =
        (entered.played (.ofNat 1) mixed).outlet.view := by
  have hown : ∀ a ∈ mixed, a.IsOwn entered.bridge.id := by
    simp [mixed, Action.IsOwn, entered, Builder.build]
  have hcalm : (entered.played (.ofNat 1) mixed).outlet.IsCalm := ⟨rfl, rfl⟩
  have horder := Turn.program_inOrder LineCodec.isBlind (.ofNat 1) (t := entered) (by decide) rfl
    hown (fun _ _ _ hr => absurd hr List.not_mem_nil) hcalm
  exact ⟨rfl, hcalm, rfl, horder.2.1⟩

end FrameBridge
