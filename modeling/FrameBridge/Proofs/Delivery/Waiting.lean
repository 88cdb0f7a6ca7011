import FrameBridge.Proofs.Entry.Stance
import FrameBridge.Proofs.Law.Drive
import FrameBridge.Proofs.Law.Line
import FrameBridge.Proofs.Promises.Fate

/-!
# Frames that wait for a flush

Every operation flushes what it wrote, in its own place and also where it fails, but for a push
promise, which waits for the next frame that is flushed.  So the frames that an open channel holds
back are push promises, and they are all that it accepted since the last flush.

* `Outlet.isSplit_steady`: what was not flushed is pending, whatever is written.
* `Turn.rule_promisesOnly`: only push promises are pending once an operation is through.
* `Drive.holdsBack_run` puts both together for every run of a driver.
-/

namespace FrameBridge

/-- The frame is a push promise. -/
def Outbound.IsPromise (f : Outbound) : Prop :=
  ∃ s promised hs p, f = LineCodec.frameOf (.pushPromise s promised hs p)

theorem Entry.isFlush_of_isAside {e : Entry} (h : e.isAside) : e.isFlush = false := by
  cases e <;> first | rfl | cases h

theorem Entry.isFlush_of_isEcho {e : Entry} (h : e.isEcho) : e.isFlush = false := by
  cases e <;> first | rfl | cases h

/-! ### What was not flushed is pending -/

/-- The frames that were accepted are those that were flushed, and after them those that are
pending. -/
def SplitAt (journal : List Record) (loop : LoopId) (pending : List Outbound) : Prop :=
  acceptedFrames journal loop = flushedFrames journal loop ++ pending

theorem SplitAt.cons {journal : List Record} {loop : LoopId} {pending : List Outbound}
    (h : SplitAt journal loop pending) {r : Record} (haccepted : r.entry.accepted? = none)
    (hflush : r.entry.isFlush = false) : SplitAt (r :: journal) loop pending := by
  unfold SplitAt acceptedFrames
  rw [reported_cons_of_none _ haccepted, flushedFrames_cons_of_not hflush]
  exact h

namespace Outlet

variable {κ : Type}

/-- Unless the channel is shut, what was accepted and not flushed is pending. -/
def IsSplit (o : Outlet κ) : Prop :=
  o.channel.isOpen = true → SplitAt o.hub.journal o.home o.channel.pending

theorem isSplit_steady : Steady (IsSplit : Outlet κ → Prop) where
  hub o := Hub.law_journal (p := fun j => o.channel.isOpen = true →
      SplitAt j o.home o.channel.pending) fun _ _ hr h hopen =>
    (h hopen).cons (Entry.accepted?_of_isEcho hr) (Entry.isFlush_of_isEcho hr)
  aside {o h} ha hp hopen := by
    rcases ha.journal with hsame | ⟨r, hr, hmore⟩
    · rw [hsame]
      exact hp hopen
    · rw [hmore]
      exact (hp hopen).cons (Entry.accepted?_of_isAside hr) (Entry.isFlush_of_isAside hr)
  codec _ _ hp := hp
  buffer f {o} _ hp hopen := by
    have hsplit : acceptedFrames o.hub.journal o.home =
        flushedFrames o.hub.journal o.home ++ o.channel.pending := hp hopen
    have hmore := reported_cons Entry.accepted? ⟨o.home, .accepted f⟩ o.hub.journal o.home
    rw [if_pos rfl] at hmore
    show acceptedFrames (⟨o.home, .accepted f⟩ :: o.hub.journal) o.home =
      flushedFrames (⟨o.home, .accepted f⟩ :: o.hub.journal) o.home ++ (o.channel.pending ++ [f])
    rw [flushedFrames_cons_of_not rfl, ← List.append_assoc, ← hsplit]
    exact hmore
  flush {o} _ _ := by
    show acceptedFrames (⟨o.home, .flushed⟩ :: o.hub.journal) o.home =
      flushedFrames (⟨o.home, .flushed⟩ :: o.hub.journal) o.home ++ []
    rw [List.append_nil, flushedFrames, if_pos ⟨rfl, rfl⟩]
    exact reported_cons_of_none Entry.accepted? rfl o.hub.journal o.home
  requestClose hp := hp
  leaveWord _ _ _ hp := hp
  markInactive _ := nofun
  take {o} hp := by
    obtain ⟨s, hs⟩ := o.hub.takeInline_eq
    rw [hs]
    exact hp

/-! ### Only push promises are pending -/

/-- The frames that are pending are push promises. -/
def PromisesOnly (o : Outlet LineCodec) : Prop := ∀ f ∈ o.channel.pending, f.IsPromise

theorem PromisesOnly.of_empty {o : Outlet LineCodec} (h : o.channel.pending = []) :
    o.PromisesOnly := by
  intro f hf
  rw [h] at hf
  cases hf

theorem pending_accept_cases (f : Outbound) (o : Outlet κ) :
    (o.accept f).channel.pending = o.channel.pending ++ [f] ∨
      (o.accept f).channel.pending = o.channel.pending := by
  show (o.channel.write f).1.pending = _ ∨ (o.channel.write f).1.pending = _
  unfold Channel.write
  split
  · exact .inl rfl
  · exact .inr rfl

/-- Notifications are no frames. -/
theorem pending_foldl_notify {requests : List ChannelRequest}
    (hnotify : ∀ r ∈ requests, ∃ e, r = .notify e) (o : Outlet κ) :
    (requests.foldl carryOut o).channel.pending = o.channel.pending := by
  induction requests generalizing o with
  | nil => rfl
  | cons r requests ih =>
      have hrest : ∀ r ∈ requests, ∃ e, r = .notify e :=
        fun r hr => hnotify r (List.mem_cons_of_mem _ hr)
      obtain ⟨e, rfl⟩ := hnotify r List.mem_cons_self
      exact ih hrest _

/-- Encoding a command adds its frame at most. -/
theorem mem_pending_encode {o : Outlet LineCodec} {c : Command} {f : Outbound}
    (hf : f ∈ (o.encode c.outgoing c.promise).channel.pending) :
    f ∈ o.channel.pending ∨ f = LineCodec.frameOf c := by
  let called : Outlet LineCodec := { o.record (.codec (.encode c.outgoing)) with
    codec := { o.codec with openStreams := o.codec.openAfter c.outgoing } }
  have hquiet : ((o.codec.aftermath c.outgoing).foldl carryOut
      (called.accept (LineCodec.frameOf c))).channel.pending =
        (called.accept (LineCodec.frameOf c)).channel.pending :=
    pending_foldl_notify (fun _ => LineCodec.notify_of_mem_aftermath) _
  have hmem : f ∈ (called.accept (LineCodec.frameOf c)).channel.pending := by
    rw [← hquiet]
    exact hf
  rcases called.pending_accept_cases (LineCodec.frameOf c) with hmore | hsame
  · rw [hmore] at hmem
    rcases List.mem_append.mp hmem with hold | hnew
    · exact .inl hold
    · exact .inr (List.mem_singleton.mp hnew)
  · rw [hsame] at hmem
    exact .inl hmem

/-- A write that is made leaves push promises pending at most, since every other one is flushed. -/
theorem PromisesOnly.perform {o : Outlet LineCodec} (h : o.PromisesOnly) (c : Command) :
    (o.perform c).PromisesOnly := by
  unfold Outlet.perform
  split
  · exact h
  · cases c with
    | pushPromise s promised hs p =>
        intro f hf
        rcases mem_pending_encode hf with hold | rfl
        · exact h f hold
        · exact ⟨s, promised, hs, p, rfl⟩
    | data s d ends =>
        simp only [afterEncoding]
        split <;> exact .of_empty rfl
    | headers | ping | frame | reset | goAway | settings => exact .of_empty rfl

/-- Octets given back are flushed if the peer is told, and nothing is written otherwise. -/
theorem PromisesOnly.giveBack {o : Outlet LineCodec} (h : o.PromisesOnly) (s : StreamId)
    (n : UInt32) : (o.giveBack s n).PromisesOnly := by
  have hrequests := LineCodec.requests_of_isAnswer (c := o.codec) (.consume s n)
  unfold Outlet.giveBack call
  split
  · exact h
  · cases hresult : (Codec.consume o.codec s n).result with
    | error e =>
        have hnone : (Codec.consume o.codec s n).requests = [] := by
          rw [hrequests, hresult]
          rfl
        rw [hnone]
        exact h
    | ok told =>
        cases told with
        | true => exact .of_empty rfl
        | false =>
            have hnone : (Codec.consume o.codec s n).requests = [] := by
              rw [hrequests, hresult]
              rfl
            rw [hnone]
            exact h

/-- Whatever application code does, only push promises are pending. -/
theorem rule_promisesOnly : Rule (fun _ => True) (Regardless PromisesOnly) where
  hub o := Hub.law_of_constant (∀ f ∈ o.channel.pending, f.IsPromise)
  good_of_waiting _ _ _ := trivial
  take h := h
  perform _ h := PromisesOnly.perform h _
  giveBack s n _ _ h := PromisesOnly.giveBack h s n
  close h := h

end Outlet

namespace Turn

variable {σ δ : Type} [Connection σ]

/-- Whatever a bridge does about errors, only push promises are pending. -/
theorem rule_promisesOnly :
    Rule (fun _ => True) fun t : Turn LineCodec σ δ => t.outlet.PromisesOnly where
  obeys {t} _ := t.bridge.obeys_all
  step hasWriter now a _ _ h := Outlet.rule_promisesOnly.step hasWriter now a (.of [] h)
  record _ h := h
  notice _ _ h := h
  meter _ _ h := h
  arrive _ _ h := h
  advance _ h := h
  session _ h := h
  blueprint h := h
  catchUp {t} h := Outlet.rule_promisesOnly.catchUp (o := t.outlet) (.of [] h)
  react e t _ := by
    -- Both reactions flush what they write.
    cases e with
    | stream s c m => exact .of_empty rfl
    | connection c m => exact .of_empty rfl
  closing h := h
  channel _ _ _ h := h

variable [Decoder δ]

theorem drive_promisesOnly :
    DriveRule (fun _ => True) fun t : Turn LineCodec σ δ => t.outlet.PromisesOnly where
  toSettleRule := rule_promisesOnly.settling
  program hactions h := rule_promisesOnly.program true .connection hactions h
  notice _ _ h := h
  close h := h
  started _ := .of_empty rfl
  decoded _ _ h := h
  letGo {t} h := by
    have hcaught : t.catchUp.outlet.PromisesOnly := rule_promisesOnly.catchUp h
    have hquiet : t.letGo.outlet.channel.pending = t.catchUp.outlet.channel.pending :=
      Outlet.pending_foldl_notify
        (fun _ => LineCodec.notify_of_mem_deactivate (c := t.catchUp.bridge.codec)) _
    intro f hf
    exact hcaught f (hquiet ▸ hf)
  tearDown {t} _ := by
    have hshut : t.shut.outlet.PromisesOnly := .of_empty rfl
    exact Run.holds_andThen (P := fun t : Turn LineCodec σ δ => t.outlet.PromisesOnly)
      (rule_promisesOnly.sayGoodbye hshut) fun _ h => h
  write c t h := Outlet.rule_promisesOnly.write (o := t.outlet) trivial (.of [_] h)
  hub t := Hub.law_of_constant (∀ f ∈ t.bridge.channel.pending, f.IsPromise)
  scope _ _ h := h
  mailbox _ _ _ h := h
  log _ _ h := h
  take h := h
  recode _ _ h := h

/-- What was not flushed stays pending whatever a driver does. -/
theorem drive_isSplit {κ : Type} [Codec κ] :
    DriveRule (fun _ => True) fun t : Turn κ σ δ => t.outlet.IsSplit :=
  Outlet.isSplit_steady.drive (fun _ _ h => h) (fun _ _ _ h => h)
    (fun r o h hopen => by
      unfold Hub.log
      split
      · exact h hopen
      · exact (h hopen).cons rfl rfl)
    fun h => h

end Turn

namespace Drive

variable {σ δ : Type} [Connection σ] [Decoder δ]

/-- The frames that an open channel holds back are the push promises accepted since the last flush.

* `split`: what is pending is what was accepted since the last flush, in order.
* `promises`: all of it are push promises, so any other frame was flushed.
* `emptied`: nothing is pending once the channel is shut.
* `closed`: the channel of a closed bridge is shut. -/
structure HoldsBack (d : Drive LineCodec σ δ) : Prop where
  split : d.turn.bridge.channel.isOpen = true → acceptedFrames d.turn.hub.journal d.home =
    flushedFrames d.turn.hub.journal d.home ++ d.turn.bridge.channel.pending
  promises : ∀ f ∈ d.turn.bridge.channel.pending, f.IsPromise
  emptied : d.turn.bridge.channel.isOpen = false → d.turn.bridge.channel.pending = []
  closed : d.turn.bridge.state = .closed → d.turn.bridge.channel.isOpen = false

omit [Connection σ] [Decoder δ] in
/-- A frame that an open channel accepted was flushed if it is not a push promise. -/
theorem HoldsBack.flushed {d : Drive LineCodec σ δ} (h : d.HoldsBack)
    (hopen : d.turn.bridge.channel.isOpen = true) {f : Outbound}
    (hf : f ∈ acceptedFrames d.turn.hub.journal d.home) (hnot : ¬ f.IsPromise) :
    f ∈ flushedFrames d.turn.hub.journal d.home := by
  rw [h.split hopen] at hf
  rcases List.mem_append.mp hf with hflushed | hpending
  · exact hflushed
  · exact absurd (h.promises f hpending) hnot

/-- In every run of a driver, and panics included, an open channel holds back nothing but the push
promises that it accepted since the last flush, and a channel that is shut holds back nothing.  As
long as every entry has returned the channel is open unless the bridge is closed. -/
theorem holdsBack_run (b : Builder LineCodec σ δ) (reactions : List Reaction) (rounds : Nat)
    (steps : List (DriveStep LineCodec)) :
    ((start b reactions).run rounds steps).HoldsBack ∧
      ((start b reactions).Returned rounds steps →
        ((start b reactions).run rounds steps).turn.bridge.state ≠ .closed →
        ((start b reactions).run rounds steps).turn.bridge.channel.isOpen = true) := by
  have hcoherent := b.coherent_build { reactions }
  have hany : ∀ s ∈ steps, ∀ a ∈ s.actions, (fun _ : Action => True) a := fun _ _ _ _ => trivial
  have hsplit := Turn.drive_isSplit.run rounds (d := start b reactions) hany fun _ => rfl
  have hpromises := Turn.drive_promisesOnly.run rounds (d := start b reactions) hany
    (.of_empty rfl)
  have hupright := (course_run rounds steps (start b reactions)).upright hcoherent.toUpright
  refine ⟨⟨hsplit, hpromises, fun hshut => (hupright.emptied hshut).1, hupright.closed⟩, ?_⟩
  intro hreturned hup
  have hnow := hreturned.proceeds.coherent hcoherent
  by_contra hshut
  exact hup (hnow.shut (Bool.eq_false_iff.mpr hshut))

/-- Two push promises with a frame before them, under a codec whose next drain fails. -/
def promising : List (DriveStep LineCodec) :=
  [.enter .activate, .recode { drainFailure := some (.connection .internalError "window") },
    .enter (.write [.write (.headers .current .empty false), .write (.push .current .empty)]),
    .enter (.write [.write (.push .current .empty)])]

/-- After the push promises data is written that ends its stream, and its drain fails. -/
def overdrawing : List (DriveStep LineCodec) :=
  promising ++ [.enter (.write [.write (.data (.id (.ofNat 1)) [0x78] true)])]

/-- Both promises are held back, until the write that fails flushes them with its data and the
reaction to the failure. -/
theorem holdsBack_run_promising :
    (start idler []).Returned 2 promising ∧ (start idler []).Returned 2 overdrawing ∧
      ((start idler []).run 2 promising).turn.bridge.channel.pending =
        [LineCodec.frameOf (.pushPromise .connection (.ofNat 2) .empty .void),
          LineCodec.frameOf (.pushPromise .connection (.ofNat 4) .empty .void)] ∧
      acceptedFrames ((start idler []).run 2 promising).turn.hub.journal ⟨0⟩ =
        flushedFrames ((start idler []).run 2 promising).turn.hub.journal ⟨0⟩ ++
          ((start idler []).run 2 promising).turn.bridge.channel.pending ∧
      ((start idler []).run 2 overdrawing).turn.bridge.channel.pending = [] ∧
      ((start idler []).run 2 overdrawing).turn.bridge.channel.closeRequested = true ∧
      (acceptedFrames ((start idler []).run 2 overdrawing).turn.hub.journal ⟨0⟩).length = 6 ∧
      acceptedFrames ((start idler []).run 2 overdrawing).turn.hub.journal ⟨0⟩ =
        flushedFrames ((start idler []).run 2 overdrawing).turn.hub.journal ⟨0⟩ := by
  have hreturned : (start idler []).Returned 2 promising := by decide +kernel
  have hreturned' : (start idler []).Returned 2 overdrawing := by decide +kernel
  obtain ⟨hholds, hopen⟩ := holdsBack_run idler [] 2 promising
  obtain ⟨hholds', hopen'⟩ := holdsBack_run idler [] 2 overdrawing
  have hup : ((start idler []).run 2 promising).turn.bridge.state ≠ .closed := by decide +kernel
  have hup' : ((start idler []).run 2 overdrawing).turn.bridge.state ≠ .closed := by decide +kernel
  have hnone : ((start idler []).run 2 overdrawing).turn.bridge.channel.pending = [] := by
    decide +kernel
  have hsplit := hholds'.split (hopen' hreturned' hup')
  rw [hnone, List.append_nil] at hsplit
  exact ⟨hreturned, hreturned', by decide +kernel, hholds.split (hopen hreturned hup), hnone,
    by decide +kernel, by decide +kernel, hsplit⟩

end Drive

end FrameBridge
