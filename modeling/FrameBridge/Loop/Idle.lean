import FrameBridge.Bridge.Run
import FrameBridge.Text.Dump

/-!
# Idleness

A transport is idle when nothing was read, nothing was written, or neither, for
a configured time.  Each kind of idleness is reported once and again only after
matching activity.  Times are counted in milliseconds from a common origin, up to
a last one: a kind that falls due later than that stops whoever asks when it does.
-/

namespace FrameBridge

/-- The kinds of idleness. -/
inductive IdleKind where
  | reader
  | writer
  | all
deriving DecidableEq, Repr, Inhabited

/-- The name of a kind of idleness. -/
def IdleKind.dump : IdleKind → String
  | .reader => "ReaderIdle"
  | .writer => "WriterIdle"
  | .all => "AllIdle"

/-- The kinds in the order in which they are looked at. -/
def IdleKind.inOrder : List IdleKind := [.reader, .writer, .all]

/-- A value for each kind of idleness. -/
structure PerKind (α : Type) where
  reader : α
  writer : α
  all : α
deriving DecidableEq, Repr, Inhabited

namespace PerKind

/-- The value for a kind. -/
def get {α : Type} (p : PerKind α) : IdleKind → α
  | .reader => p.reader
  | .writer => p.writer
  | .all => p.all

/-- Another value for a kind. -/
def set {α : Type} (p : PerKind α) (k : IdleKind) (x : α) : PerKind α :=
  match k with
  | .reader => { p with reader := x }
  | .writer => { p with writer := x }
  | .all => { p with all := x }

/-- Setting the value of one kind leaves the others as they are. -/
@[simp] theorem get_set {α : Type} (p : PerKind α) (k j : IdleKind) (x : α) :
    (p.set k x).get j = if j = k then x else p.get j := by
  cases k <;> cases j <;> rfl

end PerKind

/-- The configured times; a kind without one is not watched. -/
structure IdleConfig where
  timeouts : PerKind (Option Nat) := ⟨none, none, none⟩
deriving DecidableEq, Repr, Inhabited

namespace IdleConfig

/-- Whether nothing is watched. -/
def isDisabled (c : IdleConfig) : Bool :=
  IdleKind.inOrder.all fun k => (c.timeouts.get k).isNone

/-- The digits of a fraction of a second without trailing zeros. -/
def fraction (ms : Nat) : String :=
  if ms = 0 then ""
  else
    let digits := [ms / 100, ms / 10 % 10, ms % 10]
    let kept := (digits.reverse.dropWhile (· == 0)).reverse
    "." ++ String.join (kept.map Dump.number)

/-- A span of time: whole milliseconds below one second, seconds from there on. -/
def dumpSpan (ms : Nat) : String :=
  if ms = 0 then "0ns"
  else if ms < 1000 then Dump.number ms ++ "ms"
  else Dump.number (ms / 1000) ++ fraction (ms % 1000) ++ "s"

/-- The diagnostic text of a configuration. -/
def dump (c : IdleConfig) : String :=
  let span (k : IdleKind) := Dump.optional ((c.timeouts.get k).map dumpSpan)
  Dump.record "IdleConfig"
    [("reader", span .reader), ("writer", span .writer), ("all", span .all)]

end IdleConfig

/-- The last time that there is where seconds are counted in 64 bits with a sign. -/
def lastTime : Nat := (1 <<< 63) * 1000 - 1

/-- What stops whoever adds to a time and gets beyond the last one. -/
def beyondTime : Stop := .panicked "overflow when adding duration to instant"

/-- The activity seen so far, and which kinds have been reported since. -/
structure IdleTracker where
  config : IdleConfig
  lastRead : Nat
  lastWrite : Nat
  reported : PerKind Bool := ⟨false, false, false⟩
  /-- The last time that there is. -/
  latest : Nat := lastTime
deriving DecidableEq, Repr, Inhabited

namespace IdleTracker

/-- A tracker that was made now; that counts as activity of both sorts. -/
def start (config : IdleConfig) (now : Nat) (latest : Nat := lastTime) : IdleTracker :=
  { config, lastRead := now, lastWrite := now, latest }

/-- Something was read. -/
def recordRead (t : IdleTracker) (now : Nat) : IdleTracker :=
  { t with lastRead := now, reported := (t.reported.set .reader false).set .all false }

/-- Something was written. -/
def recordWrite (t : IdleTracker) (now : Nat) : IdleTracker :=
  { t with lastWrite := now, reported := (t.reported.set .writer false).set .all false }

/-- The last activity that matters for a kind. -/
def lastActivity (t : IdleTracker) : IdleKind → Nat
  | .reader => t.lastRead
  | .writer => t.lastWrite
  | .all => max t.lastRead t.lastWrite

/-- When a kind falls due, if there is such a time; a kind that was reported does not. -/
def sum? (t : IdleTracker) (k : IdleKind) : Option Nat :=
  if t.reported.get k then none
  else (t.config.timeouts.get k).map fun timeout => t.lastActivity k + timeout

/-- The time at which a kind falls due; a kind that was reported has none. -/
def deadline (t : IdleTracker) (k : IdleKind) : Except Stop (Option Nat) :=
  match t.sum? k with
  | none => .ok none
  | some due => if due ≤ t.latest then .ok (some due) else .error beyondTime

/-- The earliest time at which a kind falls due. -/
def nextDeadline (t : IdleTracker) : Except Stop (Option Nat) :=
  (IdleKind.inOrder.mapM t.deadline).map fun dues => (dues.filterMap id).min?

/-- The first of some kinds that is due. -/
def firstDue (t : IdleTracker) (now : Nat) : List IdleKind → Except Stop (Option IdleKind)
  | [] => .ok none
  | k :: ks =>
      match t.deadline k with
      | .error why => .error why
      | .ok due => if due.any (· ≤ now) then .ok (some k) else t.firstDue now ks

/-- The tracker after a kind was reported. -/
def mark (t : IdleTracker) (k : IdleKind) : IdleTracker :=
  { t with reported := t.reported.set k true }

/-- The first kind that is due, which thereby counts as reported. -/
def pollExpired (t : IdleTracker) (now : Nat) : Except Stop (Option IdleKind × IdleTracker) :=
  match t.firstDue now IdleKind.inOrder with
  | .error why => .error why
  | .ok none => .ok (none, t)
  | .ok (some k) => .ok (some k, t.mark k)

/-- The number of kinds that may still be reported. -/
def armed (t : IdleTracker) : Nat :=
  IdleKind.inOrder.countP fun k => !t.reported.get k

/-- A kind that is due has not been reported. -/
theorem not_reported_of_firstDue {t : IdleTracker} {now : Nat} {ks : List IdleKind} {k : IdleKind}
    (h : t.firstDue now ks = .ok (some k)) : t.reported.get k = false := by
  induction ks with
  | nil => cases h
  | cons j js ih =>
      unfold firstDue at h
      cases hdeadline : t.deadline j with
      | error why =>
          rw [hdeadline] at h
          cases h
      | ok due =>
          simp only [hdeadline] at h
          split at h
          · rename_i hdue
            cases h
            -- A kind that was reported has no deadline.
            refine Bool.eq_false_iff.mpr fun hreported => ?_
            simp only [deadline, sum?, hreported, if_true] at hdeadline
            cases hdeadline
            cases hdue
          · exact ih h

/-- A kind that is reported may not be reported again at once, so polling comes to an end. -/
theorem armed_pollExpired_lt {t t' : IdleTracker} {now : Nat} {k : IdleKind}
    (h : t.pollExpired now = .ok (some k, t')) : t'.armed < t.armed := by
  unfold pollExpired at h
  split at h
  · cases h
  · cases h
  · rename_i hdue
    cases h
    have hreported := not_reported_of_firstDue hdue
    revert hreported
    rcases t with ⟨config, lastRead, lastWrite, ⟨a, b, c⟩, latest⟩
    cases k <;> cases a <;> cases b <;> cases c <;>
      simp [armed, mark, IdleKind.inOrder, PerKind.get, PerKind.set]

/-- Every kind that is due now, in the order in which they are reported. -/
def expireAll (t : IdleTracker) (now : Nat) : Except Stop (List IdleKind × IdleTracker) :=
  match h : t.pollExpired now with
  | .error why => .error why
  | .ok (none, t') => .ok ([], t')
  | .ok (some k, t') =>
      have := armed_pollExpired_lt h
      (t'.expireAll now).map fun (ks, t'') => (k :: ks, t'')
termination_by t.armed

/-! ### Where time does not run out

Whoever knows that no sum gets beyond the last time may ask without being stopped. -/

/-- The earliest time at which a kind falls due. -/
def nextDeadline? (t : IdleTracker) : Option Nat := t.nextDeadline.toOption.join

/-- The first kind that is due, which thereby counts as reported. -/
def poll (t : IdleTracker) (now : Nat) : Option IdleKind × IdleTracker :=
  (t.pollExpired now).toOption.getD (none, t)

/-- Every kind that is due now, in the order in which they are reported. -/
def pollAll (t : IdleTracker) (now : Nat) : List IdleKind × IdleTracker :=
  (t.expireAll now).toOption.getD ([], t)

end IdleTracker

end FrameBridge
