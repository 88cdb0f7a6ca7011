import FrameBridge.Proofs.Delivery.Steps
import FrameBridge.Proofs.Promises.Fate
import FrameBridge.Rehearsal.Pipe

/-!
# The order of delivery

Whatever happens to a loop over a codec of lines, the transport gets the octets of the frames
that were accepted, in order and each at most once.  If it does not fail it gets those of exactly
the frames that were flushed before the end of the bridge, and the writes of all others fail.
-/

namespace FrameBridge.EventLoop

variable {σ δ τ : Type} {sent : List Outbound} {l : EventLoop LineCodec σ δ (Tap τ)}

/-- The frames that the channel of a loop's bridge accepted. -/
def accepted (l : EventLoop LineCodec σ δ (Tap τ)) : List Outbound :=
  acceptedFrames l.turn.hub.journal l.id

/-- The frames that the channel accepted and flushed before the end of the bridge. -/
def due (l : EventLoop LineCodec σ δ (Tap τ)) : List Outbound :=
  flushedFrames (beforeEnd l.turn.hub.journal l.id) l.id

/-- What the peer and those who watch writes may rely on.

* `encoded`: the frames that were accepted are lines of the codec, in the order of its calls.
* `accepted`: the frames that are due are the first ones that were accepted.
* `inOrder`: the transport got the first octets of the frames that are due.
* `complete`: it got all of them if the loop came to its end and the transport did not fail.
* `upToDate`: while the loop goes on it got all of them but for what is on its way, so a loop that
  looks for work has nothing left to deliver.
* `torn`: it got all of them, too, if the loop was stopped after its bridge was told of the end and
  the transport did not fail.
* `whole`: once the loop has left it got no frame in part if it did not fail.
* `lost`: once the loop has left the writes of all other frames have failed. -/
structure Delivers (l : EventLoop LineCodec σ δ (Tap τ)) : Prop where
  encoded : (l.accepted.map (·.bytes)).Sublist (encodedLines l.turn.hub.journal l.id)
  accepted : l.due <+: l.accepted
  inOrder : l.transport.taken <+: octets l.due
  complete : l.phase = .finished → l.transport.hasFailed = false →
    l.transport.taken = octets l.due
  upToDate : l.isRunning = true →
    l.transport.taken ++ octets l.phase.delivery.waiting = octets l.due
  torn : ¬HasNoEnd l.turn.hub.journal l.id → l.isRunning = false → l.transport.hasFailed = false →
    l.transport.taken = octets l.due
  whole : l.isRunning = false → l.transport.hasFailed = false →
    ∃ sent, sent <+: l.due ∧ l.transport.taken = octets sent
  lost : l.isRunning = false → ∀ f ∈ l.accepted.drop l.due.length, ∀ w, f.promise = .watched w →
    w ∈ failedIn l.turn.hub.journal ∧ w ∉ succeededIn l.turn.hub.journal

theorem due_prefix_accepted (l : EventLoop LineCodec σ δ (Tap τ)) : l.due <+: l.accepted :=
  (flushedFrames_suffix (beforeEnd_suffix _ _) _).trans (flushedFrames_prefix_accepted _ _)

theorem sent_prefix_due {older : List Record} {ps : List Promise}
    (h : l.turn.Closes sent older ps) : sent <+: l.due :=
  h.flushed.trans (flushedFrames_suffix (suffix_beforeEnd h.noEnd h.grown) l.id)

/-- A write that was asked for and did not succeed has failed once its loop has left. -/
theorem mem_failedIn {older : List Record} (h : l.HasLeft sent older) {w : Watch}
    (hissued : w ∈ l.turn.hub.issued) (hnot : w ∉ succeededIn l.turn.hub.journal) :
    w ∈ failedIn l.turn.hub.journal := by
  have hended := h.kept.account.1.count_endedIn_of_shut h.kept.outside h.gone h.shut w
  have hcount := count_endedIn l.turn.hub.journal w
  have hsome := List.count_pos_iff.mpr hissued
  have hnone := List.count_eq_zero.mpr hnot
  have hended' : (endedIn l.turn.hub.journal).count w = l.turn.hub.issued.count w := hended
  exact List.count_pos_iff.mp (by omega)

/-- As long as the end was not reported all that was flushed is due. -/
theorem due_of_hasNoEnd (h : HasNoEnd l.turn.hub.journal l.id) :
    l.due = flushedFrames l.turn.hub.journal l.id := by
  have hall := suffix_beforeEnd h List.suffix_rfl
  rw [due, (beforeEnd_suffix _ _).eq_of_length_le hall.length_le]

theorem IsSafe.delivers (h : l.IsSafe) : l.Delivers := by
  cases h with
  | running hrunning sent hturn hempty htaken =>
      have hdue : l.due = sent := by
        have hflushed := hturn.flushedFrames
        rw [hempty, List.append_nil] at hflushed
        exact (due_of_hasNoEnd hturn.up.2).trans hflushed
      have hstays {p : Prop} (hleft : l.isRunning = false) : p := by
        rw [hrunning] at hleft
        cases hleft
      refine ⟨hturn.encoded, l.due_prefix_accepted, ?_, ?_, fun _ => hdue ▸ htaken,
        fun _ hleft => hstays hleft, fun hleft => hstays hleft, fun hleft => hstays hleft⟩
      · have hprefix : l.transport.taken <+: octets sent := ⟨_, htaken⟩
        exact hprefix.trans (octets_mono (sent_prefix_due hturn.closes))
      · intro hfinished
        unfold isRunning at hrunning
        rw [hfinished] at hrunning
        cases hrunning
  | left hleft sent older h =>
      have hdue := sent_prefix_due h.kept
      have htold (hend : ¬HasNoEnd l.turn.hub.journal l.id)
          (hnone : l.transport.hasFailed = false) : l.transport.taken = octets l.due := by
        obtain ⟨hend, hflushed⟩ := h.kept.parting.resolve_right hend
        -- The report of the end stands right behind what the journal was when the loop left.
        have holder : beforeEnd l.turn.hub.journal l.id = older :=
          beforeEnd_of_suffix h.kept.noEnd ⟨rfl, rfl⟩ hend
        have hflushed' : flushedFrames older l.id = sent := hflushed
        rw [due, holder, hflushed']
        exact h.whole hnone
      refine ⟨h.kept.encoded, l.due_prefix_accepted, h.taken.trans (octets_mono hdue),
        fun hfinished => htold (h.ended hfinished), ?_, fun hend _ => htold hend,
        fun _ hnone => ⟨sent, hdue, h.whole hnone⟩, ?_⟩
      · intro hrunning
        rw [hleft] at hrunning
        cases hrunning
      · intro _ f hf w hw
        cases h.kept.account.2 with
        | held hopen _ _ =>
            have hshut : l.turn.outlet.channel.isOpen = false := h.shut
            rw [hshut] at hopen
            cases hopen
        | lost _ hlost =>
            -- What is due reaches at least as far as what was handed over: the others were lost.
            obtain ⟨rest, hrest, hwatched⟩ := hlost
            have hrest' : l.accepted = sent ++ rest := hrest
            have hmem : f ∈ l.accepted.drop sent.length :=
              (List.drop_sublist_drop_left l.accepted hdue.length_le).subset hf
            rw [hrest', List.drop_left] at hmem
            obtain ⟨hissued, hnot⟩ := hwatched f hmem w hw
            exact ⟨mem_failedIn h hissued hnot, hnot⟩

theorem isSafe_ofBuilder (b : Builder LineCodec σ δ) (reactions : List Reaction) (transport : τ)
    (isSupervised : Bool) : (ofBuilder b reactions transport isSupervised).IsSafe := by
  have hstart := Drive.isSound_start b reactions
  have hnone : HasNoEnd [] (ofBuilder b reactions transport isSupervised).id :=
    fun r hr => absurd hr List.not_mem_nil
  refine .running rfl [] ?_ rfl rfl
  exact ⟨rfl, ⟨rfl, hnone⟩, hstart.shut, .slnil, hstart.sound, .held rfl rfl rfl⟩

/-- Whatever happens to a loop, the transport was given a prefix of what is due to it: each frame once
and in order, all of them if nothing failed and the loop has ended, and nothing of any other frame.
-/
theorem delivers_moves [Transport τ] [Connection σ] [Decoder δ] (b : Builder LineCodec σ δ)
    (reactions : List Reaction) (transport : τ) (isSupervised : Bool) (rounds : Nat)
    (ms : List (LoopMove LineCodec τ)) :
    ((ofBuilder b reactions transport isSupervised).moves rounds ms).Delivers :=
  (isSafe_moves rounds ms (isSafe_ofBuilder b reactions transport isSupervised)).delivers

/-- The loop of a bridge that asks for nothing sends a ping and is asked to shut down; one more
ping comes too late. -/
def pinging (pipe : Pipe) : EventLoop LineCodec Script ToyDecoder (Tap Pipe) :=
  (ofBuilder Drive.idler [] pipe false).moves 3
    (.use none (.ping ⟨1⟩ "first") :: List.replicate 6 (.step 0) ++
      .shutDown :: List.replicate 4 (.step 1) ++ [.use none (.ping ⟨2⟩ "late")])

example : (pinging {}).isRunning = false ∧ (pinging {}).transport.hasFailed = false ∧
    (pinging {}).due.length = 2 ∧ (pinging {}).transport.taken = octets (pinging {}).due ∧
    (failedIn (pinging {}).turn.hub.journal).map (·.label) = ["late"] := by
  decide +kernel

/-! A pipe that takes one write and fails the next one got the preface alone. -/

example : (pinging { writesLeft := some 1 }).transport.hasFailed = true ∧
    (pinging { writesLeft := some 1 }).transport.taken = Bytes.ofText "Preface\n" ∧
    (failedIn (pinging { writesLeft := some 1 }).turn.hub.journal).map (·.label) =
      ["late", "first"] := by
  decide +kernel

end FrameBridge.EventLoop
