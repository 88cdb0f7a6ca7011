import FrameBridge.Bridge.Errors
import FrameBridge.Proofs.Issue.Deferred

/-!
# The frames of writes

Which frames a codec puts into the channel for a command depends on the command and on the state of
the codec.  A channel that takes writes accepts all of them, and holds them behind what it held
before.

* `Codec.written` and `Codec.writtenAll` are the frames for one command and for several.
* `Outlet.Took` says of a channel that takes writes which frames it took in meanwhile.
* `Outlet.took_catchUp` says that catching up with commands, none of which fails, takes in just the
  frames for these commands.
* `Outlet.spent_react` says that the reaction to an error takes in one more, and flushes all.
-/

namespace FrameBridge

/-- The frame that a request puts into the channel. -/
def ChannelRequest.frame? : ChannelRequest → Option Outbound
  | .write bytes p => some ⟨bytes, p⟩
  | .notify _ | .raise _ | .flush | .close => none

/-- The frames that a codec puts into the channel when it is called. -/
def CodecStep.frames {κ α : Type} (s : CodecStep κ α) : List Outbound :=
  s.requests.filterMap ChannelRequest.frame?

namespace Codec

variable {κ : Type} [Codec κ]

/-- A codec that writes frames appends them to the channel, and does not close it. -/
structure KeepsOpen (κ : Type) [Codec κ] : Prop where
  encode : ∀ (k : κ) (f : Outgoing) (p : Promise), .close ∉ (Codec.encode k f p).requests
  drain : ∀ k : κ, .close ∉ (Codec.drain k).requests

/-- The frames for a command, and the codec after them.  Data that ends its stream, or fills its
window, is drained. -/
def written (k : κ) (c : Command) : List Outbound × κ :=
  let s := Codec.encode k c.outgoing c.promise
  match c with
  | .data stream _ ends =>
      if ends || !Codec.isWritable s.codec stream then
        (s.frames ++ (Codec.drain s.codec).frames, (Codec.drain s.codec).codec)
      else (s.frames, s.codec)
  | _ => (s.frames, s.codec)

/-- The frames for commands that are performed one after the other, and the codec after them. -/
def writtenAll : κ → List Command → List Outbound × κ
  | k, [] => ([], k)
  | k, c :: cs =>
      ((written k c).1 ++ (writtenAll (written k c).2 cs).1, (writtenAll (written k c).2 cs).2)

/-- The frame with which a codec reacts to an error if it has no reaction of its own. -/
def usualReaction (k : κ) : ProtocolError → Outgoing
  | .stream s code _ => .reset s code
  | .connection code m =>
      .goAway (Codec.lastRemote k) code (Bytes.ofText (ProtocolError.connection code m).display)

end Codec

namespace Outlet

variable {κ : Type} {o o' o'' : Outlet κ} {fs gs : List Outbound}

theorem acceptedFrames_accept (h : o.channel.isActive = true) (f : Outbound) :
    acceptedFrames (o.accept f).hub.journal o.home =
      acceptedFrames o.hub.journal o.home ++ [f] := by
  rw [accept_of_isActive h]
  have hcons := reported_cons Entry.accepted? ⟨o.home, .accepted f⟩ o.hub.journal o.home
  rw [if_pos rfl] at hcons
  exact hcons

theorem acceptedFrames_flush (o : Outlet κ) (loop : LoopId) :
    acceptedFrames o.flush.hub.journal loop = acceptedFrames o.hub.journal loop :=
  reported_cons_of_none Entry.accepted? rfl o.hub.journal loop

/-- The channel still takes writes, and meanwhile it accepted some frames and holds them. -/
structure Took (o : Outlet κ) (fs : List Outbound) (o' : Outlet κ) : Prop where
  home : o'.home = o.home
  active : o'.channel.isActive = true
  accepted : acceptedFrames o'.hub.journal o.home = acceptedFrames o.hub.journal o.home ++ fs
  held : o'.channel.flushed ++ o'.channel.pending = o.channel.flushed ++ o.channel.pending ++ fs

namespace Took

theorem refl (h : o.channel.isActive = true) : o.Took [] o :=
  ⟨rfl, h, (List.append_nil _).symm, (List.append_nil _).symm⟩

theorem trans (h : o.Took fs o') (h' : o'.Took gs o'') : o.Took (fs ++ gs) o'' where
  home := h'.home.trans h.home
  active := h'.active
  accepted := by
    have hmore := h'.accepted
    rw [h.home, h.accepted, List.append_assoc] at hmore
    exact hmore
  held := by rw [h'.held, h.held, List.append_assoc]

/-- A flush hands on what is held. -/
theorem flush (h : o.Took fs o') : o.Took fs o'.flush where
  home := h.home
  active := h.active
  accepted := (acceptedFrames_flush o' o.home).trans h.accepted
  held := (List.append_nil _).trans h.held

theorem orRaise {α : Type} {r : Except ProtocolError α × Outlet κ} (h : o.Took fs r.2) :
    o.Took fs (.orRaise r) := by
  rcases r with ⟨_ | _, o'⟩
  · exact ⟨h.home, h.active, h.accepted, h.held⟩
  · exact h

end Took

/-- The frames that the channel accepted, and that it has flushed all that it held. -/
structure Spent (accepted sent : List Outbound) (o : Outlet κ) : Prop where
  accepted : acceptedFrames o.hub.journal o.home = accepted
  pending : o.channel.pending = []
  flushed : o.channel.flushed = sent

theorem Spent.close {accepted sent : List Outbound} (h : o.Spent accepted sent) :
    o.close.Spent accepted sent := by
  refine ⟨?_, h.pending, h.flushed⟩
  rw [← h.accepted]
  unfold Outlet.close
  split <;> rfl

theorem Took.spent (h : o.Took fs o') :
    o'.flush.Spent (acceptedFrames o.hub.journal o.home ++ fs)
      (o.channel.flushed ++ o.channel.pending ++ fs) where
  accepted := by
    show acceptedFrames o'.flush.hub.journal o'.home = _
    rw [h.home]
    exact h.flush.accepted
  pending := rfl
  flushed := h.held

theorem codec_foldl_carryOut (rs : List ChannelRequest) (o : Outlet κ) :
    (rs.foldl carryOut o).codec = o.codec :=
  holds_carryOut (Q := fun o' => o'.codec = o.codec) (fun _ r h => by cases r <;> exact h) rs rfl

theorem took_carryOut (h : o.channel.isActive = true) {r : ChannelRequest} (hr : r ≠ .close) :
    o.Took r.frame?.toList (o.carryOut r) := by
  cases r with
  | write bytes p =>
      have haccepted := acceptedFrames_accept h ⟨bytes, p⟩
      have htaken := accept_of_isActive h ⟨bytes, p⟩
      refine ⟨rfl, ?_, haccepted, ?_⟩
      · show (o.accept ⟨bytes, p⟩).channel.isActive = true
        rw [htaken]
        exact h
      · show (o.accept ⟨bytes, p⟩).channel.flushed ++ (o.accept ⟨bytes, p⟩).channel.pending = _
        rw [htaken]
        exact (List.append_assoc ..).symm
  | notify e | raise e => exact ⟨rfl, h, (List.append_nil _).symm, (List.append_nil _).symm⟩
  | flush => exact (Took.refl h).flush
  | close => exact absurd rfl hr

theorem took_foldl_carryOut (h : o.channel.isActive = true) {rs : List ChannelRequest}
    (hrs : .close ∉ rs) : o.Took (rs.filterMap ChannelRequest.frame?) (rs.foldl carryOut o) := by
  induction rs generalizing o with
  | nil => exact .refl h
  | cons r rs ih =>
      have hr : r ≠ .close := fun hclose => hrs (hclose ▸ List.mem_cons_self)
      have hfirst := took_carryOut h hr
      have hrest := ih hfirst.active fun hclose => hrs (List.mem_cons_of_mem r hclose)
      have hsplit : (r :: rs).filterMap ChannelRequest.frame? =
          r.frame?.toList ++ rs.filterMap ChannelRequest.frame? := by
        rw [List.filterMap_cons]
        cases r.frame? <;> rfl
      rw [hsplit]
      exact hfirst.trans hrest

/-- A codec that is called has the frames accepted that it asks for. -/
theorem took_call {α : Type} (describe : α → CodecCall) {s : CodecStep κ α}
    (h : o.channel.isActive = true) (hs : .close ∉ s.requests) :
    o.Took s.frames (o.call describe s).2 := by
  let called : Outlet κ := { o.record (.codec (describe s.result)) with codec := s.codec }
  have hcalled : o.Took [] called :=
    ⟨rfl, h, (reported_cons_of_none Entry.accepted? rfl o.hub.journal o.home).trans
      (List.append_nil _).symm, (List.append_nil _).symm⟩
  exact hcalled.trans (took_foldl_carryOut (o := called) h hs)

theorem codec_call {α : Type} (describe : α → CodecCall) (s : CodecStep κ α) (o : Outlet κ) :
    (o.call describe s).2.codec = s.codec :=
  codec_foldl_carryOut s.requests _

variable [Codec κ]

theorem took_encode (hopen : Codec.KeepsOpen κ) (h : o.channel.isActive = true) (f : Outgoing)
    (p : Promise) : o.Took (Codec.encode o.codec f p).frames (o.encode f p) :=
  took_call _ h (hopen.encode o.codec f p)

theorem took_drain (hopen : Codec.KeepsOpen κ) (h : o.channel.isActive = true) :
    o.Took (Codec.drain o.codec).frames o.drain :=
  (took_call .drain h (hopen.drain o.codec)).orRaise

theorem codec_drain (o : Outlet κ) : o.drain.codec = (Codec.drain o.codec).codec := by
  have hcall := codec_call .drain (Codec.drain o.codec) o
  unfold drain
  rcases hr : o.call .drain (Codec.drain o.codec) with ⟨_ | _, o'⟩
  · rw [hr] at hcall
    exact hcall
  · rw [hr] at hcall
    exact hcall

/-- A write that is made takes in the frames for its command. -/
theorem took_perform (hopen : Codec.KeepsOpen κ) (h : o.IsCalm) (c : Command) :
    o.Took (Codec.written o.codec c).1 (o.perform c) ∧
      (o.perform c).codec = (Codec.written o.codec c).2 := by
  have hencode := took_encode hopen h.1 c.outgoing c.promise
  have hcodec : (o.encode c.outgoing c.promise).codec =
      (Codec.encode o.codec c.outgoing c.promise).codec := codec_call _ _ o
  rw [perform_of_isCalm h]
  cases c with
  | data s d ends =>
      simp only [afterEncoding, Codec.written, ← hcodec]
      split
      · exact ⟨(hencode.trans (took_drain hopen hencode.active)).flush, codec_drain _⟩
      · exact ⟨hencode.flush, rfl⟩
  | pushPromise => exact ⟨hencode, hcodec⟩
  | headers | ping | frame | reset | goAway | settings => exact ⟨hencode.flush, hcodec⟩

theorem took_foldl_perform (hopen : Codec.KeepsOpen κ) {cs : List Command}
    (h : (cs.foldl perform o).IsCalm) :
    o.Took (Codec.writtenAll o.codec cs).1 (cs.foldl perform o) ∧
      (cs.foldl perform o).codec = (Codec.writtenAll o.codec cs).2 := by
  induction cs generalizing o with
  | nil => exact ⟨.refl h.1, rfl⟩
  | cons c cs ih =>
      -- What is calm after all commands was calm after each.
      have hafter : (o.perform c).IsCalm := isCalm_of_foldl (fun _ _ => isCalm_of_perform) h
      obtain ⟨hfirst, hcodec⟩ := took_perform hopen (isCalm_of_perform hafter) c
      obtain ⟨hrest, hlast⟩ := ih h
      rw [hcodec] at hrest hlast
      exact ⟨hfirst.trans hrest, hlast⟩

/-- Catching up with commands, none of which fails, takes in the frames for them. -/
theorem took_catchUp (hopen : Codec.KeepsOpen κ) {cs : List Command}
    (hscope : o.hub.scope = some ⟨o.home, cs⟩) (h : o.catchUp.IsCalm) :
    o.Took (Codec.writtenAll o.codec cs).1 o.catchUp ∧
      o.catchUp.codec = (Codec.writtenAll o.codec cs).2 := by
  have hwaits : o.waitingFor cs = o := by rw [waitingFor, ← hscope]
  -- In the end nothing has failed, so no code that waits for a write has sent anything meanwhile.
  have hcaught : o.catchUp = cs.foldl perform (o.waitingFor []) := by
    rw [← hwaits] at h
    have hcaught := catchUp_waitingFor (.inr h)
    rw [hwaits] at hcaught
    exact hcaught
  rw [hcaught] at h ⊢
  obtain ⟨htook, hcodec⟩ := took_foldl_perform hopen h
  exact ⟨⟨htook.home, htook.active, htook.accepted, htook.held⟩, hcodec⟩

/-- Writes do not close the channel, whatever fails. -/
theorem rule_isActive (hopen : Codec.KeepsOpen κ) :
    WriteRule (fun _ => True) (Regardless fun o : Outlet κ => o.channel.isActive = true) where
  hub o := Hub.law_of_constant (o.channel.isActive = true)
  good_of_waiting _ _ _ := trivial
  take h := h
  perform {c ps o} _ h := by
    by_cases hfault : o.channel.hasFault = true
    · unfold perform
      rw [if_pos hfault]
      exact h
    · exact (took_perform hopen ⟨h, Bool.eq_false_iff.mpr hfault⟩ c).1.active

/-- A codec without a reaction of its own reacts with one frame, and flushes it with all that was
held. -/
theorem spent_react (hopen : Codec.KeepsOpen κ) (hactive : o.channel.isActive = true)
    {e : ProtocolError} (husual : Codec.ownReaction o.codec e = none) :
    (o.react e).home = o.home ∧ (o.react e).Spent
      (acceptedFrames o.hub.journal o.home ++
        (Codec.encode o.codec (Codec.usualReaction o.codec e) .void).frames)
      (o.channel.flushed ++ o.channel.pending ++
        (Codec.encode o.codec (Codec.usualReaction o.codec e) .void).frames) := by
  have htook (f : Outgoing) :
      (o.refer e).Took (Codec.encode o.codec f .void).frames ((o.refer e).encode f .void) :=
    took_encode (o := o.refer e) hopen hactive f .void
  have hown : Codec.ownReaction (o.refer e).codec e = none := husual
  unfold react
  simp only [hown]
  cases e with
  | stream s code m => exact ⟨(htook _).home, (htook _).spent⟩
  | connection code m => exact ⟨(htook _).home, (htook _).spent.close⟩

end Outlet

end FrameBridge
