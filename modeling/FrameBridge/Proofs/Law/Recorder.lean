import FrameBridge.Proofs.Calls.Life
import FrameBridge.Rehearsal.Script

/-!
# Connections that record

A connection that records acts when it is told of settings, of headers with a priority and of errors
of streams.  Everything else it only takes note of.

* `Connection.Records` says so of a type of connections, and `Turn.tell_of_silent` what it means for
  the bridge.
* `Recorder` is the type of those scripts that have parts for these occasions only.
-/

namespace FrameBridge

/-- Whether a connection that records may act when it is told of this. -/
def Callback.isOccasion : Callback → Bool
  | .settings _ | .streamError .. => true
  | .frame f => f.kind == .priorityHeaders
  | .goAway _ | .streamClosed _ | .writabilityChanged _ | .connectionError _ | .closed => false

/-- Connections that act on those occasions only. -/
def Connection.Records (σ : Type) [Connection σ] : Prop :=
  ∀ (s : σ) (c : Callback), c.isOccasion = false → (Connection.respond s c).2 = []

/-- A connection that does nothing about a call only changes its own state. -/
theorem Turn.tell_of_silent {κ σ δ : Type} [Codec κ] [Connection σ] {t : Turn κ σ δ}
    {session : Session σ δ} (hsession : t.bridge.session = some session) {c : Callback}
    (hframe : ∀ f, c ≠ .frame f) (hsilent : (Connection.respond session.connection c).2 = []) :
    t.tell c = .done
      { bridge := { t.bridge with
          session := some { session with
            connection := (Connection.respond session.connection c).1 } }
        hub := t.hub.record t.bridge.id (.callback c) } := by
  have hcall : t.callback session.connection c =
      ((Connection.respond session.connection c).1, .done (t.record (.callback c))) := by
    unfold callback
    cases c with
    | frame f => exact absurd rfl (hframe f)
    | _ =>
        simp only [hsilent]
        rfl
  simp only [tell, hsession, hcall]
  rfl

namespace Script

/-- Playing a part does not change what it is for. -/
theorem map_cue_playCue (cue : Cue) (parts : List Part) :
    (playCue cue parts).1.map (·.cue) = parts.map (·.cue) := by
  induction parts with
  | nil => rfl
  | cons p parts ih =>
      simp only [playCue]
      split
      · exact congrArg (p.cue :: ·) ih
      · exact congrArg (p.cue :: ·) ih

theorem map_cue_playCues (cues : List Cue) (parts : List Part) :
    (playCues cues parts).1.map (·.cue) = parts.map (·.cue) := by
  induction cues generalizing parts with
  | nil => rfl
  | cons cue cues ih => exact (ih _).trans (map_cue_playCue cue parts)

theorem playCue_eq_nil {cue : Cue} {parts : List Part} (h : cue ∉ parts.map (·.cue)) :
    (playCue cue parts).2 = [] := by
  induction parts with
  | nil => rfl
  | cons p parts ih =>
      rw [List.map_cons, List.mem_cons, not_or] at h
      have hother : ¬ (p.cue = cue ∧ p.left ≠ 0) := fun hp => h.1 hp.1.symm
      simp only [playCue, Bool.and_eq_true, decide_eq_true_eq, bne_iff_ne, if_neg hother]
      exact ih h.2

/-- A script that has no part for an occasion does nothing then. -/
theorem playCues_eq_nil {cues : List Cue} {parts : List Part}
    (h : ∀ cue ∈ cues, cue ∉ parts.map (·.cue)) : (playCues cues parts).2 = [] := by
  induction cues generalizing parts with
  | nil => rfl
  | cons cue cues ih =>
      have hfirst := playCue_eq_nil (h cue List.mem_cons_self)
      have hrest : (playCues cues (playCue cue parts).1).2 = [] := ih fun cue' hcue' => by
        rw [map_cue_playCue]
        exact h cue' (List.mem_cons_of_mem cue hcue')
      simp only [playCues, hfirst, hrest, List.append_nil]

end Script

/-- A script that has parts for settings, headers with a priority and errors of streams only.  It does
at once whatever is handed over to it. -/
structure Recorder where
  script : Script
  occasions : ∀ cue ∈ script.parts.map (·.cue),
    cue = .settings ∨ cue = .headers ∨ cue = .streamError

namespace Recorder

/-- The recorder after its script was told of something. -/
def next (r : Recorder) (c : Callback) : Recorder where
  script := (Connection.respond r.script c).1
  occasions cue hcue := by
    rw [show (Connection.respond r.script c).1.parts =
      (Script.playCues (Script.cues r.script.isPlain c) r.script.parts).1 from rfl,
      Script.map_cue_playCues] at hcue
    exact r.occasions cue hcue

instance : Connection Recorder where
  respond r c := (r.next c, (Connection.respond r.script c).2)
  takesFrames r := Connection.takesFrames r.script

theorem isPrompt : Connection.IsPrompt Recorder := fun _ => rfl

/-- Such a script is a connection that records. -/
theorem records : Connection.Records Recorder := by
  intro r c hc
  refine Script.playCues_eq_nil fun cue (hcue : cue ∈ Script.cues r.script.isPlain c) hpart => ?_
  have hpart := r.occasions cue hpart
  cases c with
  | settings | streamError => cases hc
  | frame f =>
      have hkind : ¬ f.kind = .priorityHeaders := by simpa [Callback.isOccasion] using hc
      simp only [Script.cues, if_neg hkind, List.mem_singleton] at hcue
      subst hcue
      simp at hpart
  | goAway g =>
      cases hg : g.direction <;> simp only [Script.cues, hg, List.mem_singleton] at hcue <;>
        subst hcue <;> simp at hpart
  | streamClosed | writabilityChanged | connectionError | closed =>
      simp only [Script.cues, List.mem_singleton] at hcue
      subst hcue
      simp at hpart

end Recorder

end FrameBridge
