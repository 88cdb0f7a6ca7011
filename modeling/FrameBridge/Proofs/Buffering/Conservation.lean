import FrameBridge.Wire.Channel
import Mathlib.Data.List.Induction

/-!
# A channel keeps what it accepted

Whatever is done to a channel, and in whatever order, a frame that was written while the channel
was active is in one of three places, in the order of the writes: taken off, flushed or pending.
Every other frame was refused at once.  When the transport is gone, what the channel still holds
is given up, and from then on it holds nothing.
-/

namespace FrameBridge

/-- What may be done to a channel. -/
inductive ChannelMove where
  | write (frame : Outbound)
  | flush
  | requestClose
  | takeFlushed
  | markInactive
deriving DecidableEq, Repr

namespace ChannelMove

/-- Whether no frame is accepted from this move on. -/
def shuts : ChannelMove → Bool
  | .requestClose | .markInactive => true
  | .write _ | .flush | .takeFlushed => false

/-- The frame that a move writes. -/
def frame? : ChannelMove → Option Outbound
  | .write frame => some frame
  | .flush | .requestClose | .takeFlushed | .markInactive => none

/-- The frames that moves write, in order. -/
def frames (ms : List ChannelMove) : List Outbound := ms.filterMap frame?

/-- The frames written while the channel is active. -/
def inTime (ms : List ChannelMove) : List Outbound := frames (ms.takeWhile (!·.shuts))

/-- The frames written when the channel is not active any more. -/
def late (ms : List ChannelMove) : List Outbound := frames (ms.dropWhile (!·.shuts))

theorem inTime_concat (ms : List ChannelMove) (m : ChannelMove) :
    inTime (ms ++ [m]) = inTime ms ++ if ms.any shuts then [] else frames [m] := by
  unfold inTime frames
  induction ms with
  | nil => cases m <;> rfl
  | cons n ms ih =>
      cases hn : n.shuts with
      | true => simp [hn]
      | false =>
          simp only [List.cons_append, List.any_cons, hn, Bool.false_or, Bool.not_false,
            List.takeWhile_cons_of_pos, List.filterMap_cons]
          rw [ih]
          cases n.frame? <;> rfl

theorem late_concat (ms : List ChannelMove) (m : ChannelMove) :
    late (ms ++ [m]) = late ms ++ if ms.any shuts then frames [m] else [] := by
  unfold late frames
  induction ms with
  | nil => cases m <;> rfl
  | cons n ms ih =>
      cases hn : n.shuts with
      | true => simp [hn, ← List.filterMap_append]
      | false => simpa [hn] using ih

end ChannelMove

/-- A channel, the frames that were taken off it, and the writes that it ended, in order. -/
structure ChannelCourse where
  channel : Channel := {}
  taken : List Outbound := []
  ended : List Resolution := []

namespace ChannelCourse

open ChannelMove

/-- Writes that fail because the channel is closed. -/
def failed (frames : List Outbound) : List Resolution :=
  frames.map fun o => ⟨o.promise, .error .channelClosed⟩

/-- Does one thing to a channel. -/
def move (s : ChannelCourse) : ChannelMove → ChannelCourse
  | .write frame =>
      { s with channel := (s.channel.write frame).1, ended := s.ended ++ (s.channel.write frame).2 }
  | .flush => { s with channel := s.channel.flush }
  | .requestClose => { s with channel := s.channel.requestClose }
  | .takeFlushed =>
      { s with channel := s.channel.takeFlushed.2, taken := s.taken ++ s.channel.takeFlushed.1 }
  | .markInactive =>
      { s with channel := s.channel.markInactive.1, ended := s.ended ++ s.channel.markInactive.2 }

/-- Does one thing after the other to a new channel. -/
def run (ms : List ChannelMove) : ChannelCourse := ms.foldl move {}

theorem run_concat (ms : List ChannelMove) (m : ChannelMove) :
    run (ms ++ [m]) = (run ms).move m := by
  simp [run]

/-- The frames that were accepted and are accounted for: taken off, flushed or pending. -/
def kept (s : ChannelCourse) : List Outbound :=
  s.taken ++ s.channel.flushed ++ s.channel.pending

theorem isActive_move (s : ChannelCourse) (m : ChannelMove) :
    (s.move m).channel.isActive = (s.channel.isActive && !m.shuts) := by
  cases m with
  | write frame =>
      cases h : s.channel.isActive with
      | true =>
          simp only [move, Channel.write_of_active h]
          exact h
      | false => simp [move, shuts, h]
  | flush => simp [move, shuts]
  | requestClose | markInactive => simp [move, shuts]
  | takeFlushed => simp [move, shuts, Channel.takeFlushed, Channel.isActive]

theorem isActive_run (ms : List ChannelMove) :
    (run ms).channel.isActive = !ms.any shuts := by
  induction ms using List.reverseRecOn with
  | nil => rfl
  | append_singleton ms m ih => simp [run_concat, isActive_move, ih]

/-- Unless the transport goes, a move keeps all that is there, and adds the frame that it writes if
the channel is active. -/
theorem kept_move (s : ChannelCourse) {m : ChannelMove} (hm : m ≠ .markInactive) :
    (s.move m).kept = s.kept ++ if s.channel.isActive then frames [m] else [] := by
  cases m with
  | write frame => cases h : s.channel.isActive <;> simp [move, kept, frames, frame?, h]
  | flush | takeFlushed => simp [move, kept, frames, frame?, Channel.flush, Channel.takeFlushed]
  | requestClose => simp [move, kept, frames, frame?, Channel.requestClose]
  | markInactive => exact absurd rfl hm

/-- Unless the transport goes, a move ends the write of a frame that comes too late, and no other. -/
theorem ended_move (s : ChannelCourse) {m : ChannelMove} (hm : m ≠ .markInactive) :
    (s.move m).ended = s.ended ++ failed (if s.channel.isActive then [] else frames [m]) := by
  cases m with
  | write frame =>
      cases h : s.channel.isActive <;>
        simp [move, failed, frames, frame?, h, Promise.abandoned]
  | flush | requestClose | takeFlushed => simp [move, failed, frames, frame?]
  | markInactive => exact absurd rfl hm

theorem kept_run {ms : List ChannelMove} (h : .markInactive ∉ ms) : (run ms).kept = inTime ms := by
  induction ms using List.reverseRecOn with
  | nil => rfl
  | append_singleton ms m ih =>
      obtain ⟨hms, hm⟩ := not_or.mp (List.mem_append.not.mp h)
      have hne : m ≠ .markInactive := fun heq => hm (heq ▸ List.mem_singleton_self _)
      rw [run_concat, kept_move _ hne, ih hms, inTime_concat, isActive_run]
      cases ms.any shuts <;> rfl

theorem ended_run {ms : List ChannelMove} (h : .markInactive ∉ ms) :
    (run ms).ended = failed (late ms) := by
  induction ms using List.reverseRecOn with
  | nil => rfl
  | append_singleton ms m ih =>
      obtain ⟨hms, hm⟩ := not_or.mp (List.mem_append.not.mp h)
      have hne : m ≠ .markInactive := fun heq => hm (heq ▸ List.mem_singleton_self _)
      rw [run_concat, ended_move _ hne, ih hms, late_concat, isActive_run]
      cases ms.any shuts <;> simp [failed]

/-- A channel without a transport, which holds nothing. -/
structure IsVoid (c : Channel) : Prop where
  isOpen : c.isOpen = false
  pending : c.pending = []
  flushed : c.flushed = []

/-- Whatever is done to a channel without a transport, it holds nothing and takes nothing in, and
the writes asked of it fail. -/
theorem foldl_of_isVoid {s : ChannelCourse} (h : IsVoid s.channel) (ms : List ChannelMove) :
    IsVoid (ms.foldl move s).channel ∧ (ms.foldl move s).taken = s.taken ∧
      (ms.foldl move s).ended = s.ended ++ failed (frames ms) := by
  induction ms generalizing s with
  | nil => exact ⟨h, rfl, by simp [failed, frames]⟩
  | cons m ms ih =>
      obtain ⟨hopen, hpending, hflushed⟩ := h
      have hinactive : s.channel.isActive = false := by simp [Channel.isActive, hopen]
      have hmove : IsVoid (s.move m).channel ∧ (s.move m).taken = s.taken ∧
          (s.move m).ended = s.ended ++ failed (frames [m]) := by
        cases m with
        | write frame =>
            refine ⟨?_, rfl, ?_⟩
            · simpa [move, hinactive] using ⟨hopen, hpending, hflushed⟩
            · simp [move, hinactive, failed, frames, frame?, Promise.abandoned]
        | flush =>
            refine ⟨⟨hopen, rfl, ?_⟩, rfl, by simp [move, failed, frames, frame?]⟩
            simp [move, Channel.flush, hpending, hflushed]
        | requestClose =>
            exact ⟨⟨hopen, hpending, hflushed⟩, rfl, by simp [move, failed, frames, frame?]⟩
        | takeFlushed =>
            refine ⟨⟨hopen, hpending, rfl⟩, ?_, by simp [move, failed, frames, frame?]⟩
            simp [move, Channel.takeFlushed, hflushed]
        | markInactive =>
            refine ⟨⟨rfl, rfl, rfl⟩, rfl, ?_⟩
            simp [move, Channel.markInactive, hpending, hflushed, failed, frames, frame?]
      obtain ⟨hvoid, htaken, hended⟩ := ih hmove.1
      refine ⟨hvoid, htaken.trans hmove.2.1, ?_⟩
      have hframes : frames (m :: ms) = frames [m] ++ frames ms := by
        rw [frames, frames, frames, ← List.filterMap_append]
        rfl
      rw [List.foldl_cons, hended, hmove.2.2, hframes]
      simp [failed]

/-- Until the transport goes, the frames that were taken off, those that are flushed and those that
are pending are the ones written while the channel was active, in the order of their writes, and
the writes of all others have failed.  When it goes, the writes of the frames that are still
there fail, pending ones first; frames that were taken off stay as they are, and nothing that is
done later is kept. -/
theorem keeps_accepted_frames (ms : List ChannelMove) (hopen : .markInactive ∉ ms)
    (later : List ChannelMove) :
    (run ms).channel.isActive = !ms.any shuts ∧
    (run ms).taken ++ (run ms).channel.flushed ++ (run ms).channel.pending = inTime ms ∧
    (run ms).ended = failed (late ms) ∧
    (run (ms ++ .markInactive :: later)).taken = (run ms).taken ∧
    (run (ms ++ .markInactive :: later)).channel.pending = [] ∧
    (run (ms ++ .markInactive :: later)).channel.flushed = [] ∧
    (run (ms ++ .markInactive :: later)).ended =
      (run ms).ended ++ failed ((run ms).channel.pending ++ (run ms).channel.flushed) ++
        failed (frames later) := by
  have hsplit : run (ms ++ .markInactive :: later) =
      later.foldl move ((run ms).move .markInactive) := by
    simp [run]
  have hvoid : IsVoid ((run ms).move .markInactive).channel := ⟨rfl, rfl, rfl⟩
  obtain ⟨hempty, htaken, hended⟩ := foldl_of_isVoid hvoid later
  rw [hsplit]
  refine ⟨isActive_run ms, kept_run hopen, ended_run hopen, htaken, hempty.pending,
    hempty.flushed, ?_⟩
  rw [hended]
  simp [move, Channel.markInactive, failed, Promise.abandoned]

/-- A frame of one octet. -/
def octetFrame (b : UInt8) : Outbound := ⟨[b], .void⟩

/-- Of five frames the first is taken off, the second is flushed and the third is pending when a
close is asked for; the fourth comes too late, and the fifth after the end. -/
theorem keeps_accepted_frames_closing :
    .markInactive ∉ [ChannelMove.write (octetFrame 1), .flush, .takeFlushed, .write (octetFrame 2),
      .flush, .write (octetFrame 3), .requestClose, .write (octetFrame 4)] ∧
    (run ([.write (octetFrame 1), .flush, .takeFlushed, .write (octetFrame 2), .flush,
      .write (octetFrame 3), .requestClose, .write (octetFrame 4)] ++
        .markInactive :: [.write (octetFrame 5), .flush])).ended =
      failed [octetFrame 4, octetFrame 3, octetFrame 2, octetFrame 5] := by
  have hopen : .markInactive ∉ [ChannelMove.write (octetFrame 1), .flush, .takeFlushed,
      .write (octetFrame 2), .flush, .write (octetFrame 3), .requestClose,
      .write (octetFrame 4)] := by decide
  exact ⟨hopen, (keeps_accepted_frames _ hopen [.write (octetFrame 5), .flush]).2.2.2.2.2.2⟩

end ChannelCourse

end FrameBridge
