import FrameBridge.Proofs.Promises.Sound
import FrameBridge.Rehearsal.Script
import FrameBridge.Rehearsal.ToyDecoder
import Mathlib.Data.List.Induction

/-!
# The fate of promises

What becomes of the promises of a bridge over a codec of lines, whatever its driver does:
no write ends twice, a write succeeds only because the driver reports so of its own frame, and
once the bridge is closed and nothing is left anywhere every write has ended.
-/

namespace FrameBridge

namespace Drive

variable {σ δ : Type}

/-- The promises that are with the driver. -/
def kept (d : Drive LineCodec σ δ) : List Promise :=
  d.frames.map (·.promise) ++ d.commands.map (·.promise)

/-- What is in order between any two things that a driver does. -/
structure IsSound (d : Drive LineCodec σ δ) : Prop where
  outside : d.turn.hub.scope = none
  sound : d.turn.outlet.IsSound d.frames d.kept
  shut : d.turn.bridge.state = .closed → d.turn.bridge.channel.isOpen = false
  commands : ∀ c ∈ d.commands, c.IsFaithful
  frames : ∀ f ∈ d.frames, f.IsFaithful

theorem isSound_start (b : Builder LineCodec σ δ) (reactions : List Reaction) :
    (start b reactions).IsSound where
  outside := rfl
  sound := by
    have nothing {p : Outbound → Prop} (f : Outbound) (hf : f ∈ []) : p f :=
      absurd hf List.not_mem_nil
    refine ⟨⟨⟨⟨⟨?_, nothing⟩, ?_⟩, nofun, List.nodup_nil⟩, nothing, nothing⟩, rfl, ?_,
      fun _ => ⟨rfl, rfl⟩⟩
    · intro c hc
      simp [waitingIn, start, Builder.build, Turn.outlet, Hub.notice] at hc
    · intro w
      simp [start, Builder.build, Turn.outlet, Hub.notice, kept, waitingIn, endedIn, owed]
    · exact ⟨_, rfl, fun _ => rfl⟩
  shut := nofun
  commands _ hc := absurd hc List.not_mem_nil
  frames _ hf := absurd hf List.not_mem_nil

/-- A command that the driver gives away was the only one that carried its promise. -/
theorem kept_perm_of_command {d : Drive LineCodec σ δ} {i : Nat} {c : Command}
    (hc : d.commands[i]? = some c) :
    d.kept.Perm (c.promise ::
      (d.frames.map (·.promise) ++ (d.commands.eraseIdx i).map (·.promise))) := by
  obtain ⟨hi, rfl⟩ := List.getElem?_eq_some_iff.mp hc
  have hpick := (List.getElem_cons_eraseIdx_perm hi).symm.map (·.promise)
  exact (hpick.append_left (d.frames.map (·.promise))).trans List.perm_middle

theorem kept_perm_of_frame {d : Drive LineCodec σ δ} {i : Nat} {f : Outbound}
    (hf : d.frames[i]? = some f) :
    d.kept.Perm (f.promise ::
      ((d.frames.eraseIdx i).map (·.promise) ++ d.commands.map (·.promise))) := by
  obtain ⟨hi, rfl⟩ := List.getElem?_eq_some_iff.mp hf
  have hpick := (List.getElem_cons_eraseIdx_perm hi).symm.map (·.promise)
  exact hpick.append_right (d.commands.map (·.promise))

namespace IsSound

variable {d : Drive LineCodec σ δ}

theorem receive (h : d.IsSound) {c : Command} {hub : Hub}
    (hnext : d.turn.hub.nextCommand d.home = some (c, hub)) :
    IsSound { d with turn := { d.turn with hub }, commands := d.commands ++ [c] } := by
  obtain ⟨hc, hsound⟩ := h.sound.receive hnext
  refine ⟨?_, hsound.perm ?_, h.shut, ?_, h.frames⟩
  · obtain ⟨rest, -, rfl⟩ := Hub.eq_of_nextCommand hnext
    exact h.outside
  · have hlast : (c.promise :: d.kept).Perm (d.kept ++ [c.promise]) :=
      (List.perm_append_singleton _ _).symm
    simpa [kept] using hlast
  · intro c' hc'
    rcases List.mem_append.mp hc' with hold | hlast
    · exact h.commands c' hold
    · obtain rfl := List.mem_singleton.mp hlast
      exact hc

theorem drop (h : d.IsSound) {i : Nat} {c : Command} (hc : d.commands[i]? = some c) :
    IsSound ({ d with commands := d.commands.eraseIdx i }.onHub (·.abandon c.promise)) where
  outside := Hub.law_scope_none.abandon (.of [c.promise] h.outside)
  sound := ((Outlet.law_isSound d.frames).hub d.turn.outlet).abandon
    (h.sound.perm (kept_perm_of_command hc))
  shut := h.shut
  commands c' hc' := h.commands c' (List.mem_of_mem_eraseIdx hc')
  frames := h.frames

theorem dropQueue (h : d.IsSound) : IsSound (d.onHub (·.closeMailbox d.home)) where
  outside := Hub.law_scope_none.abandonCommands (.of (_ ++ []) h.outside)
  sound := ((Outlet.law_isSound d.frames).hub d.turn.outlet).abandonCommands h.sound.closeQueue
  shut := h.shut
  commands := h.commands
  frames := h.frames

theorem finish (h : d.IsSound) {i : Nat} {f : Outbound} (hf : d.frames[i]? = some f)
    (outcome : Outcome) :
    IsSound ({ d with frames := d.frames.eraseIdx i }.onHub (·.resolve ⟨f.promise, outcome⟩)) where
  outside := by
    have hlog := Hub.scope_log d.turn.hub ⟨f.promise, outcome⟩
    exact Hub.law_scope_none.resolve_of_log (.of [] (hlog.trans h.outside))
  sound := by
    have hunder := h.sound.perm (kept_perm_of_frame hf)
    have hlog := Outlet.IsSound.log (r := ⟨f.promise, outcome⟩) hunder
    have hfewer := hlog.forget (List.eraseIdx_sublist d.frames i).subset
    exact ((Outlet.law_isSound (d.frames.eraseIdx i)).hub d.turn.outlet).resolve_of_log hfewer
  shut := h.shut
  commands := h.commands
  frames f' hf' := h.frames f' (List.mem_of_mem_eraseIdx hf')

theorem take (h : d.IsSound) : IsSound { d with
    turn := { d.turn with
      bridge := { d.turn.bridge with channel := d.turn.bridge.channel.takeFlushed.2 } }
    frames := d.frames ++ d.turn.bridge.channel.flushed } where
  outside := h.outside
  sound := by
    refine h.sound.takeFlushed.perm ?_
    simp only [kept, List.map_append, List.append_assoc]
    exact List.perm_append_comm_assoc _ _ _
  shut := h.shut
  commands := h.commands
  frames f hf := by
    rcases List.mem_append.mp hf with hold | hnew
    · exact h.frames f hold
    · exact h.sound.isFaithful.2 f (List.mem_append_right _ hnew)

variable [Connection σ] [Decoder δ]

theorem enter (h : d.IsSound) (rounds : Nat) (e : Entrance) :
    IsSound { d with turn := (d.turn.enterBy rounds e).state } where
  outside := Turn.scope_enterBy rounds e h.outside
  sound := (Outlet.law_isSound d.frames).turn.enterBy rounds e h.outside h.sound
  shut := Turn.law_shut_of_closed.enterBy rounds e h.outside (.of [] h.shut)
  commands := h.commands
  frames := h.frames

theorem apply (h : d.IsSound) (rounds : Nat) {i : Nat} {c : Command}
    (hc : d.commands[i]? = some c) :
    IsSound { d with
      turn := (d.turn.apply rounds c).state, commands := d.commands.eraseIdx i } where
  outside := Turn.scope_apply rounds c h.outside
  sound := (Outlet.law_isSound d.frames).turn.apply rounds h.outside
    (h.commands c (List.mem_of_getElem? hc)) (h.sound.perm (kept_perm_of_command hc))
  shut := Turn.law_shut_of_closed.apply rounds h.outside trivial (.of [c.promise] h.shut)
  commands c' hc' := h.commands c' (List.mem_of_mem_eraseIdx hc')
  frames := h.frames

/-- Whatever the driver does, everything stays in order. -/
theorem step (h : d.IsSound) (rounds : Nat) (s : DriveStep LineCodec) :
    (d.step rounds s).IsSound := by
  cases s with
  | enter e => exact h.enter rounds e
  | use target a =>
      exact
        { outside := Hub.law_scope_none.use _ true .connection a (.of [] h.outside)
          sound :=
            ((Outlet.law_isSound d.frames).hub d.turn.outlet).use _ true .connection a h.sound
          shut := h.shut
          commands := h.commands
          frames := h.frames }
  | receive =>
      simp only [Drive.step]
      split
      · exact h
      · rename_i c hub hnext
        exact h.receive hnext
  | apply i =>
      simp only [Drive.step]
      split
      · exact h
      · rename_i c hc
        exact h.apply rounds hc
  | drop i =>
      simp only [Drive.step]
      split
      · exact h
      · rename_i c hc
        exact h.drop hc
  | dropQueue => exact h.dropQueue
  | take => exact h.take
  | finish i outcome =>
      simp only [Drive.step]
      split
      · exact h
      · rename_i f hf
        exact h.finish hf outcome
  | recode codec =>
      exact
        { outside := h.outside
          sound := (Outlet.law_isSound d.frames).codec codec h.sound
          shut := h.shut
          commands := h.commands
          frames := h.frames }

theorem run (h : d.IsSound) (rounds : Nat) (steps : List (DriveStep LineCodec)) :
    (d.run rounds steps).IsSound := by
  induction steps generalizing d with
  | nil => exact h
  | cons s steps ih => exact ih (h.step rounds s)

end IsSound

/-! ### Successes -/

variable [Connection σ] [Decoder δ] {d : Drive LineCodec σ δ}

/-- What is not lost when the journal grows is not lost by anything that a driver does, if it
survives that the driver reports a success. -/
theorem journal_step {p : List Record → Prop}
    (hp : ∀ r j, r.entry.succeeded? = none → p j → p (r :: j)) (h : d.IsSound) (rounds : Nat)
    {s : DriveStep LineCodec}
    (hfinish : ∀ i f, s = .finish i (.ok ()) → d.frames[i]? = some f →
      p (d.turn.hub.log ⟨f.promise, .ok ()⟩).journal)
    (hj : p d.turn.hub.journal) : p (d.step rounds s).turn.hub.journal := by
  have L := Outlet.law_journal hp
  have H := L.hub d.turn.outlet
  have T := L.line.turn (σ := σ) (δ := δ)
  cases s with
  | enter e => exact T.enterBy rounds e h.outside (.of [] hj)
  | use target a => exact H.use _ true .connection a (.of [] hj)
  | receive =>
      simp only [step]
      split
      · exact hj
      · rename_i c hub hnext
        obtain ⟨rest, -, rfl⟩ := Hub.eq_of_nextCommand hnext
        exact hj
  | apply i =>
      simp only [step]
      split
      · exact hj
      · rename_i c hc
        exact T.apply rounds h.outside trivial (.of [c.promise] hj)
  | drop i =>
      simp only [step]
      split
      · exact hj
      · rename_i c hc
        exact H.abandon (.of [c.promise] hj)
  | dropQueue => exact H.abandonCommands (.of (_ ++ []) hj)
  | take => exact hj
  | finish i outcome =>
      simp only [step]
      split
      · exact hj
      · rename_i f hf
        cases outcome with
        | error e => exact H.resolve ⟨e, rfl⟩ (.of [f.promise] hj)
        | ok u => exact H.resolve_of_log (.of [] (hfinish i f rfl hf))
  | recode codec => exact hj

/-- The only thing that a driver does that makes a write succeed is to report so of the frame
that carries its promise. -/
theorem succeededIn_step (h : d.IsSound) (rounds : Nat) (s : DriveStep LineCodec) :
    succeededIn (d.step rounds s).turn.hub.journal = succeededIn d.turn.hub.journal ∨
      ∃ i f w, s = .finish i (.ok ()) ∧ d.frames[i]? = some f ∧ f.promise = .watched w ∧
        succeededIn (d.step rounds s).turn.hub.journal =
          w :: succeededIn d.turn.hub.journal := by
  -- That the list of successes is a given one is kept by every entry that reports none.
  have hp (ws : List Watch) (r : Record) (j : List Record) (hr : r.entry.succeeded? = none)
      (hj : succeededIn j = ws) : succeededIn (r :: j) = ws := by
    rw [← hj]
    simp [succeededIn, hr]
  by_cases hs : ∃ i f w, s = .finish i (.ok ()) ∧ d.frames[i]? = some f ∧ f.promise = .watched w
  · obtain ⟨i, f, w, rfl, hf, hw⟩ := hs
    refine .inr ⟨i, f, w, rfl, hf, hw, ?_⟩
    simp only [step, hf, hw]
    exact ((Outlet.law_journal (hp _)).hub d.turn.outlet).resolve_of_log (.of [] rfl)
  · refine .inl (journal_step (hp _) h rounds ?_ rfl)
    intro i f hi hf
    cases hw : f.promise with
    | void => rfl
    | watched w => exact absurd ⟨i, f, w, hi, hf, hw⟩ hs

/-- A frame that was accepted stays so. -/
theorem accepted_run (h : d.IsSound) (rounds : Nat) (steps : List (DriveStep LineCodec))
    {loop : LoopId} {f : Outbound} (hf : AcceptedIn d.turn.hub.journal loop f) :
    AcceptedIn (d.run rounds steps).turn.hub.journal loop f := by
  induction steps generalizing d with
  | nil => exact hf
  | cons s steps ih =>
      refine ih (h.step rounds s) ?_
      refine journal_step (p := (AcceptedIn · loop f)) (fun r j _ hj => hj.cons r) h rounds ?_ hf
      intro i f' _ _
      unfold Hub.log
      split
      · exact hf
      · exact hf.cons _

/-- The only thing that a driver does to get frames is to take them off the channel. -/
theorem mem_frames_step {rounds : Nat} {s : DriveStep LineCodec} {f : Outbound}
    (hf : f ∈ (d.step rounds s).frames) :
    f ∈ d.frames ∨ s = .take ∧ f ∈ d.turn.bridge.channel.flushed := by
  cases s with
  | take =>
      rcases List.mem_append.mp hf with hold | hnew
      · exact .inl hold
      · exact .inr ⟨rfl, hnew⟩
  | receive | apply i | drop i =>
      simp only [step] at hf
      split at hf <;> exact .inl hf
  | finish i outcome =>
      simp only [step] at hf
      split at hf
      · exact .inl hf
      · exact .inl (List.mem_of_mem_eraseIdx hf)
  | enter | use | dropQueue | recode => exact .inl hf

theorem run_append (rounds : Nat) (steps more : List (DriveStep LineCodec)) :
    d.run rounds (steps ++ more) = (d.run rounds steps).run rounds more :=
  List.foldl_append

/-- A frame that the driver has was taken off the channel at some time. -/
theorem taken_of_mem_frames {rounds : Nat} {f : Outbound} (hd : d.frames = [])
    {steps : List (DriveStep LineCodec)} (hf : f ∈ (d.run rounds steps).frames) :
    ∃ before after, steps = before ++ .take :: after ∧
      f ∈ (d.run rounds before).turn.bridge.channel.flushed := by
  induction steps using List.reverseRecOn with
  | nil =>
      rw [run, List.foldl_nil, hd] at hf
      cases hf
  | append_singleton steps s ih =>
      rw [run_append] at hf
      rcases mem_frames_step hf with hold | ⟨rfl, hnew⟩
      · obtain ⟨before, after, rfl, htaken⟩ := ih hold
        exact ⟨before, after ++ [s], by simp, htaken⟩
      · exact ⟨steps, [], rfl, hnew⟩

/-- A watch is resolved with success because the channel accepted and flushed the frame that
carries its promise, the driver took this frame and then reported that its write succeeded. -/
def Succeeds (rounds : Nat) (d : Drive LineCodec σ δ) (steps : List (DriveStep LineCodec))
    (w : Watch) (f : Outbound) : Prop :=
  ∃ before between after i,
    steps = before ++ .take :: (between ++ .finish i (.ok ()) :: after) ∧
    FlushedIn (d.run rounds before).turn.hub.journal (d.run rounds before).home f ∧
    f ∈ (d.run rounds before).turn.bridge.channel.flushed ∧
    (d.run rounds (before ++ .take :: between)).frames[i]? = some f ∧
    f.promise = .watched w

namespace Succeeds

variable {rounds : Nat} {steps : List (DriveStep LineCodec)} {w : Watch} {f : Outbound}

theorem promise (hf : d.Succeeds rounds steps w f) : f.promise = .watched w := by
  obtain ⟨-, -, -, -, -, -, -, -, hp⟩ := hf
  exact hp

theorem accepted (hf : d.Succeeds rounds steps w f) (h : d.IsSound) :
    AcceptedIn (d.run rounds steps).turn.hub.journal (d.run rounds steps).home f := by
  obtain ⟨before, between, after, i, hsteps, hflushed, -⟩ := hf
  have hhome : (d.run rounds steps).home = (d.run rounds before).home :=
    (h.run rounds steps).sound.isTidy.1.trans (h.run rounds before).sound.isTidy.1.symm
  rw [hhome, hsteps, run_append]
  exact accepted_run (h.run rounds before) rounds _ hflushed.accepted

end Succeeds

theorem succeeds_of_mem {rounds : Nat} {w : Watch} (h : d.IsSound) (hframes : d.frames = [])
    (hnone : succeededIn d.turn.hub.journal = []) {steps : List (DriveStep LineCodec)}
    (hw : w ∈ succeededIn (d.run rounds steps).turn.hub.journal) :
    ∃ f, f.IsFaithful ∧ d.Succeeds rounds steps w f := by
  induction steps using List.reverseRecOn with
  | nil =>
      rw [run, List.foldl_nil, hnone] at hw
      cases hw
  | append_singleton steps s ih =>
      -- A success that was reported before is explained by the steps before.
      have later (hbefore : w ∈ succeededIn (d.run rounds steps).turn.hub.journal) :
          ∃ f, f.IsFaithful ∧ d.Succeeds rounds (steps ++ [s]) w f := by
        obtain ⟨f, hfaithful, before, between, after, i, rfl, hrest⟩ := ih hbefore
        exact ⟨f, hfaithful, before, between, after ++ [s], i, by simp, hrest⟩
      have hsound := h.run rounds steps
      rw [run_append] at hw
      rcases succeededIn_step hsound rounds s with hsame | ⟨i, f, w', rfl, hf, hp, hmore⟩
      · exact later (hsame ▸ hw)
      · obtain rfl | hbefore := List.mem_cons.mp (hmore ▸ hw)
        · have hmem := List.mem_of_getElem? hf
          obtain ⟨before, between, rfl, htaken⟩ := taken_of_mem_frames hframes hmem
          have hflushed := (h.run rounds before).sound.isTraced.2 f (List.mem_append_left _ htaken)
          exact ⟨f, hsound.frames f hmem, before, between, [], i, by simp, hflushed, htaken, hf, hp⟩
        · exact later hbefore

omit [Connection σ] [Decoder δ] in
/-- No watch was handed out twice. -/
theorem count_issued (h : d.IsSound) (w : Watch) :
    d.turn.hub.issued.count w = if w ∈ d.turn.hub.issued then 1 else 0 :=
  h.sound.isNumbered.2.count

/-- The bridge is closed, its queue is gone, and nothing is left with the driver. -/
def IsOver (d : Drive LineCodec σ δ) : Prop :=
  d.turn.bridge.state = .closed ∧ d.turn.hub.isOpen d.home = false ∧
    d.commands = [] ∧ d.frames = []

omit [Connection σ] [Decoder δ] in
/-- Every promise counts among the writes that have ended once there is no other place left. -/
theorem endedIn_of_isOver (h : d.IsSound) (hover : d.IsOver) (w : Watch) :
    (endedIn d.turn.hub.journal).count w = d.turn.hub.issued.count w := by
  obtain ⟨hclosed, hqueue, hcommands, hframes⟩ := hover
  have hkept : d.kept = [] := by
    rw [kept, hframes, hcommands]
    rfl
  have hsound := h.sound
  rw [hkept] at hsound
  exact hsound.count_endedIn_of_shut h.outside hqueue (h.shut hclosed) w

/-- What those who watch writes may rely on after some steps of a driver.

* `once`: no write ends twice.
* `earned`: a write succeeds only as `Succeeds` says, and a promised stream that is reported
  is the one that the very frame promises.
* `settled`: once everything is over each write that was watched has ended, and with an error if
  no frame that carries its promise was ever accepted. -/
structure KeepsPromises (rounds : Nat) (d : Drive LineCodec σ δ)
    (steps : List (DriveStep LineCodec)) : Prop where
  once : ∀ w, (endedIn (d.run rounds steps).turn.hub.journal).count w ≤ 1
  earned : ∀ w ∈ succeededIn (d.run rounds steps).turn.hub.journal,
    ∃ f, d.Succeeds rounds steps w f ∧ ∀ id, w.promised = some id →
      ∃ s hs, f.bytes = Bytes.ofText (LineCodec.line (.pushPromise s id hs 0) ++ "\n")
  settled : (d.run rounds steps).IsOver → ∀ w ∈ (d.run rounds steps).turn.hub.issued,
    (endedIn (d.run rounds steps).turn.hub.journal).count w = 1 ∧
    ((∀ f, AcceptedIn (d.run rounds steps).turn.hub.journal (d.run rounds steps).home f →
        f.promise ≠ .watched w) →
      ∃ r ∈ (d.run rounds steps).turn.hub.journal, ∃ e, r.entry = .resolved w (.error e))

/-- Every promise of a bridge is kept, however it is driven: none ends twice, one that succeeds is that
of a frame that the transport took, and each has ended when the bridge and its queue are gone. -/
theorem keepsPromises_start (b : Builder LineCodec σ δ) (reactions : List Reaction)
    (rounds : Nat) (steps : List (DriveStep LineCodec)) :
    (start b reactions).KeepsPromises rounds steps := by
  have h := isSound_start b reactions
  have hend := h.run rounds steps
  have hearned {w : Watch}
      (hw : w ∈ succeededIn ((start b reactions).run rounds steps).turn.hub.journal) :=
    succeeds_of_mem h rfl rfl hw
  refine ⟨?_, ?_, ?_⟩
  · exact fun w => hend.sound.count_endedIn_le w
  · intro w hw
    obtain ⟨f, hfaithful, hsucceeds⟩ := hearned hw
    exact ⟨f, hsucceeds, fun id hid => hfaithful w id hsucceeds.promise hid⟩
  · intro hover w hw
    have hcount :
        (endedIn ((start b reactions).run rounds steps).turn.hub.journal).count w = 1 := by
      rw [endedIn_of_isOver hend hover, count_issued hend, if_pos hw]
    refine ⟨hcount, fun hnever => ?_⟩
    have hended := List.count_pos_iff.mp (Nat.lt_of_lt_of_eq Nat.one_pos hcount.symm)
    obtain ⟨r, hr, outcome, hresolved⟩ := mem_endedIn.mp hended
    cases outcome with
    | error e => exact ⟨r, hr, e, hresolved⟩
    -- A success would have come from a frame that was accepted, and there is none.
    | ok u =>
        have hreport : r.entry.succeeded? = some w := by
          rw [hresolved]
          rfl
        obtain ⟨f, -, hsucceeds⟩ := hearned (List.mem_filterMap.mpr ⟨r, hr, hreport⟩)
        exact absurd hsucceeds.promise (hnever f (hsucceeds.accepted h))

/-- A bridge that asks for nothing by itself. -/
def idler : Builder LineCodec Script ToyDecoder where
  codec := {}
  blueprint := {}

/-- A driver that reports the success of one ping; the bridge ends before it does another. -/
def pinged : List (DriveStep LineCodec) :=
  [.enter .activate, .enter (.write [.write (.ping ⟨1⟩ (some (.callback, "first")))]), .take,
    .finish 1 (.ok ()), .finish 0 (.ok ()), .use none (.ping ⟨2⟩ "second"), .enter .deactivate,
    .dropQueue]

example : ((start idler []).run 2 pinged).IsOver := ⟨rfl, rfl, rfl, rfl⟩

example : succeededIn ((start idler []).run 2 pinged).turn.hub.journal =
      [⟨0, ⟨0⟩, .callback, "first", none⟩] ∧
    endedIn ((start idler []).run 2 pinged).turn.hub.journal =
      [⟨1, ⟨0⟩, .future, "second", none⟩, ⟨0, ⟨0⟩, .callback, "first", none⟩] := by
  decide +kernel

end Drive

end FrameBridge
