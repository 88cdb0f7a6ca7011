import FrameBridge.Proofs.Issue.Log

/-!
# Keeping up with what was issued

Application code may leave commands in the inline queue.  An outlet keeps up with a log if it
would be where the log says once it has caught up; every action keeps up, so that nothing is
overtaken and nothing is lost.
-/

namespace FrameBridge

theorem LocalStreams.hasNext_of_reserve_error {l : LocalStreams} {e : BridgeError}
    {streams : LocalStreams} (h : l.reserve = (.error e, streams)) : l.hasNext = false := by
  unfold reserve at h
  split at h
  · cases h
  · rename_i hnext
    exact Bool.eq_false_iff.mpr hnext

/-- Nobody waits for a write if its watch is not a callback with code behind its label. -/
theorem Hub.reactionTo_eq_none {h : Hub} {w : Watch}
    (hcode : w.kind = .callback → ∀ r ∈ h.reactions, r.label ≠ w.label) :
    h.reactionTo (.watched w) = none := by
  cases hkind : w.kind with
  | future => simp only [reactionTo, hkind]
  | callback =>
      simp only [reactionTo, hkind]
      rw [Option.map_eq_none_iff, List.find?_eq_none]
      intro r hmem hlabel
      exact hcode hkind r hmem (of_decide_eq_true hlabel)

/-- Where no code waits for a write nothing follows from its end. -/
theorem Hub.resolve_eq_log {h : Hub} {p : Promise} {outcome : Outcome}
    (hnobody : h.reactionTo p = none) : h.resolve ⟨p, outcome⟩ = h.log ⟨p, outcome⟩ := by
  unfold resolve
  cases h.reactions.length with
  | zero => rfl
  | succ depth => simp only [resolveWithin, hnobody]

namespace Outlet

variable {κ : Type} {start o o' : Outlet κ} {l : IssueLog}

/-- What an outlet that is calm still holds besides records: everything that it started with,
but for the identifiers handed out and the commands that wait. -/
def tied (start : Outlet κ) (streams : LocalStreams) (inline : List Command) : Bonds :=
  ⟨start.home, some ⟨start.home, inline⟩,
    start.hub.mailboxes.modify start.home.index fun m => { m with streams },
    start.hub.reactions⟩

theorem eq_waitingFor {streams : LocalStreams} {inline : List Command}
    (h : o.bonds = start.tied streams inline) : o = o.waitingFor inline := by
  have hhome : o.home = start.home := congrArg Bonds.home h
  have hscope : o.hub.scope = some ⟨start.home, inline⟩ := congrArg Bonds.scope h
  unfold waitingFor
  rw [hhome, ← hscope, ← hhome]

theorem view_record {e : Entry} (hcalled : e.called? = none) (htaken : e.taken? = none)
    (o : Outlet κ) (loop : LoopId) :
    view { o with hub := o.hub.record loop e } = o.view := by
  simp only [view, Hub.codecCalls, Hub.acceptedBytes, Hub.record]
  rw [reported_cons_of_none _ hcalled, reported_cons_of_none _ htaken]

variable [Codec κ]

/-- An outlet has come as far as what was issued, done at once, would have brought it.

* `sight`: once it has caught up it looks as if everything had been done.
* `bonds`: nothing of the hub was touched besides its records, its identifiers and its queue.
* `parts`: what does not wait in the inline queue is what has been done so far, in order. -/
structure Tracks (start : Outlet κ) (l : IssueLog) (o : Outlet κ) : Prop where
  sight : o.catchUp.sight = (l.issued.foldl serve start).sight
  bonds : o.IsCalm → ∃ inline, o.bonds = start.tied l.streams inline
  parts : o.IsCalm → ∃ (done : List Issue) (waiting : List Command),
    l.issued = done ++ waiting.map .write ∧
    waiting.map (·.outgoing) = o.hub.takeInline.1.map (·.outgoing) ∧
    o.sight = (done.foldl serve start).sight

namespace Tracks

/-- Once something has failed there is nothing more to tell. -/
theorem lost {l' : IssueLog} (T : Tracks start l o) (hrough : ¬ o.IsCalm)
    (hrough' : ¬ o'.IsCalm) (hmore : ∃ more, l'.issued = l.issued ++ more) :
    Tracks start l' o' where
  sight := by
    obtain ⟨more, hmore⟩ := hmore
    have hserved : ¬ (l.issued.foldl serve start).IsCalm := by
      intro hcalm
      have hsight := T.sight
      rw [sight_of_calm hcalm] at hsight
      exact hrough (isCalm_of_catchUp (calm_of_sight hsight).1)
    rw [hmore, List.foldl_append, sight_of_not_calm fun h => hserved (isCalm_of_foldl_serve h),
      sight_of_not_calm fun h => hrough' (isCalm_of_catchUp h)]
  bonds h := absurd h hrough'
  parts h := absurd h hrough'

/-- Changes of the hub that nobody behind the channel can tell. -/
theorem adjust (hblind : Codec.IsBlind κ) (T : Tracks start l o) (streams : LocalStreams)
    (hview : o'.view = o.view)
    (hbonds : ∀ inline, o.bonds = start.tied l.streams inline →
      o'.bonds = start.tied streams inline) :
    Tracks start { l with streams } o' := by
  by_cases hcalm : o.IsCalm
  · obtain ⟨inline, htied⟩ := T.bonds hcalm
    have htied' := hbonds inline htied
    refine ⟨?_, fun _ => ⟨inline, htied'⟩, fun _ => ?_⟩
    · rw [eq_waitingFor htied', sight_catchUp_waitingFor]
      have hsight := T.sight
      rw [eq_waitingFor htied, sight_catchUp_waitingFor] at hsight
      rw [← hsight]
      have hidle : (o'.waitingFor []).view = (o.waitingFor []).view := hview
      exact sight_foldl_perform hblind (sight_of_view hidle) inline
    · obtain ⟨done, waiting, hissued, hwaiting, hdone⟩ := T.parts hcalm
      have hscope : o'.hub.scope = o.hub.scope :=
        (congrArg Bonds.scope htied').trans (congrArg Bonds.scope htied).symm
      have hinline : o'.hub.takeInline.1 = o.hub.takeInline.1 := by
        unfold Hub.takeInline
        rw [hscope]
        cases o.hub.scope <;> rfl
      exact ⟨done, waiting, hissued, hinline ▸ hwaiting, (sight_of_view hview).trans hdone⟩
  · have hrough : ¬ o'.IsCalm := fun h => hcalm ((isCalm_iff_of_view hview).mp h)
    exact T.lost hcalm hrough ⟨[], (List.append_nil _).symm⟩

/-- Catching up leaves no command behind, so nothing waits after what is served. -/
theorem bonds_serve (T : Tracks start l o) {i : Issue} (h : (o.catchUp.serve i).IsCalm) :
    (o.catchUp.serve i).bonds = start.tied l.streams [] := by
  have hcaught := isCalm_of_serve h
  obtain ⟨inline, htied⟩ := T.bonds (isCalm_of_catchUp hcaught)
  rw [Outlet.bonds_serve h]
  rw [eq_waitingFor htied] at hcaught ⊢
  rw [bonds_catchUp_waitingFor hcaught]
  obtain ⟨hhome, -, hmailboxes, hreactions⟩ := Bonds.mk.inj htied
  simp only [Outlet.bonds, waitingFor, tied, hhome, hmailboxes, hreactions]

theorem scope_serve (T : Tracks start l o) {i : Issue} (h : (o.catchUp.serve i).IsCalm) :
    (o.catchUp.serve i).hub.scope = some ⟨start.home, []⟩ :=
  congrArg Bonds.scope (T.bonds_serve h)

/-- What is done after catching up is done after everything that was issued before. -/
theorem serve (T : Tracks start l o) {i i' : Issue}
    (hi : ∀ {p q : Outlet κ}, p.sight = q.sight → (p.serve i).sight = (q.serve i').sight) :
    Tracks start (l.add i') (o.catchUp.serve i) := by
  have hserved :
      (o.catchUp.serve i).sight = ((l.add i').issued.foldl Outlet.serve start).sight := by
    simp only [IssueLog.add, List.foldl_append]
    exact hi T.sight
  refine ⟨?_, fun h => ⟨[], T.bonds_serve h⟩, fun h => ?_⟩
  · rw [← hserved]
    by_cases hcalm : (o.catchUp.serve i).IsCalm
    · rw [catchUp, catchUpWithin_of_idle (T.scope_serve hcalm)]
    · rw [sight_of_not_calm hcalm, sight_of_not_calm fun h => hcalm (isCalm_of_catchUp h)]
  · refine ⟨(l.add i').issued, [], (List.append_nil _).symm, ?_, hserved⟩
    rw [Hub.takeInline, T.scope_serve h]

theorem write (hblind : Codec.IsBlind κ) (T : Tracks start l o) {c c' : Command}
    (hc : c.outgoing = c'.outgoing) : Tracks start (l.add (.write c')) (o.write c) :=
  T.serve (i := .write c) fun h => sight_perform hblind h hc

theorem consume (T : Tracks start l o) (s : StreamId) (n : UInt32) :
    Tracks start (l.add (.giveBack s n)) (o.consume s n) :=
  T.serve (i := .giveBack s n) fun h => sight_giveBack h s n

/-- A command that waits behind the others is as good as done after them. -/
theorem defer (hblind : Codec.IsBlind κ) (T : Tracks start l o) {inline : List Command}
    (htied : o.bonds = start.tied l.streams inline) {c c' : Command}
    (hc : c.outgoing = c'.outgoing) :
    Tracks start (l.add (.write c')) (o.waitingFor (inline ++ [c])) where
  sight := by
    have hsight := T.sight
    rw [eq_waitingFor htied, sight_catchUp_waitingFor] at hsight
    rw [sight_catchUp_waitingFor, List.foldl_append]
    simp only [IssueLog.add, List.foldl_append]
    exact sight_perform hblind hsight hc
  bonds _ := by
    obtain ⟨hhome, -, hmailboxes, hreactions⟩ := Bonds.mk.inj htied
    refine ⟨inline ++ [c], ?_⟩
    simp only [Outlet.bonds, waitingFor, tied, IssueLog.add, hhome, hmailboxes, hreactions]
  parts hcalm := by
    obtain ⟨done, waiting, hissued, hwaiting, hdone⟩ := T.parts hcalm
    have hinline : o.hub.takeInline.1 = inline := by
      rw [Hub.takeInline, show o.hub.scope = _ from congrArg Bonds.scope htied]
      rfl
    refine ⟨done, waiting ++ [c'], ?_, ?_, hdone⟩
    · simp only [IssueLog.add, hissued, List.map_append, List.map_cons, List.map_nil,
        List.append_assoc]
    · rw [hinline] at hwaiting
      rw [List.map_append, hwaiting]
      simp only [waitingFor, Hub.takeInline, List.map_append, List.map_cons, List.map_nil, hc]

/-- Changes of the records of the hub. -/
theorem record (hblind : Codec.IsBlind κ) (T : Tracks start l o) (loop : LoopId) {e : Entry}
    (hcalled : e.called? = none) (htaken : e.taken? = none) :
    Tracks start l { o with hub := o.hub.record loop e } :=
  T.adjust hblind l.streams (view_record hcalled htaken o loop) fun _ htied => htied

theorem watch (hblind : Codec.IsBlind κ) (T : Tracks start l o) (home : LoopId)
    (kind : WatchKind) (label : String) (promised : Option StreamId) :
    Tracks start l { o with hub := (o.hub.watch home kind label promised).2 } :=
  T.adjust hblind l.streams rfl fun _ htied => htied

theorem writeWatched (hblind : Codec.IsBlind κ) (T : Tracks start l o) (w : WatchRequest)
    {c : Promise → Command} {c' : Command} (hc : ∀ p, (c p).outgoing = c'.outgoing) :
    Tracks start (l.add (.write c')) (o.writeWatched w c) := by
  cases w with
  | none => exact T.write hblind (hc .void)
  | some request => exact (T.watch hblind o.home request.1 request.2 none).write hblind (hc _)

/-- Identifiers are handed out as the log says. -/
theorem reserve (hblind : Codec.IsBlind κ) (T : Tracks start l o) (hcalm : o.IsCalm)
    (hindex : start.home.index < start.hub.mailboxes.length) :
    (o.hub.reserve o.home).1 = l.streams.reserve.1 ∧
      Tracks start { l with streams := l.streams.reserve.2 }
        { o with hub := (o.hub.reserve o.home).2 } := by
  obtain ⟨inline, htied⟩ := T.bonds hcalm
  obtain ⟨hhome, hscope, hmailboxes, hreactions⟩ := Bonds.mk.inj htied
  have hstreams : (o.hub.mailbox start.home).streams = l.streams := by
    simp [Hub.mailbox, hmailboxes, hindex]
  refine ⟨by simp [Hub.reserve, hhome, hstreams], T.adjust hblind _ rfl fun inline htied => ?_⟩
  obtain ⟨-, hscope, -, -⟩ := Bonds.mk.inj htied
  simp only [Outlet.bonds, tied, Hub.reserve, Hub.modifyMailbox, hstreams, hhome, hscope,
    hmailboxes, hreactions, List.modify_modify_eq, Function.comp_def]

/-- What a writer pushes is issued, if an identifier is left. -/
theorem push (hblind : Codec.IsBlind κ) (T : Tracks start l o) (hcalm : o.IsCalm)
    (hindex : start.home.index < start.hub.mailboxes.length) (s : StreamId) (hs : Headers) :
    Tracks start (l.push fun id => .pushPromise s id hs .void) (o.push s hs).2 := by
  obtain ⟨hid, hreserved⟩ := T.reserve hblind hcalm hindex
  unfold IssueLog.push Outlet.push
  rcases hr : o.hub.reserve o.home with ⟨e | id, hub⟩
  -- The hub and the log hand out the same identifier or none, so two of four cases are empty.
  · rcases hr' : l.streams.reserve with ⟨e' | id', streams⟩
    · rw [hr, hr'] at hreserved
      exact hreserved
    · rw [hr, hr'] at hid
      cases hid
  · rcases hr' : l.streams.reserve with ⟨e' | id', streams⟩
    · rw [hr, hr'] at hid
      cases hid
    · rw [hr, hr'] at hid hreserved
      cases hid
      exact hreserved.write hblind rfl

/-- An action of a writer on a calm outlet. -/
theorem act (hblind : Codec.IsBlind κ) (T : Tracks start l o) (hcalm : o.IsCalm)
    (hindex : start.home.index < start.hub.mailboxes.length) (now : StreamId)
    {a : WriterAction} (ha : a ≠ .close) : Tracks start (l.writer now a) (o.act now a) := by
  cases a with
  | headers | data | frame | reset | goAway => exact T.write hblind rfl
  | ping | settings | pushId => exact T.writeWatched hblind _ fun _ => rfl
  | consume s n => exact T.consume _ n
  | push s hs => exact (T.push hblind hcalm hindex _ hs).record hblind _ rfl rfl
  | isWritable | isActive => exact T.record hblind _ rfl rfl
  | close => exact absurd rfl ha

/-- A command that is sent from the loop itself waits behind the others. -/
theorem dispatch (hblind : Codec.IsBlind κ) (T : Tracks start l o) (hcalm : o.IsCalm)
    {c c' : Command} (hc : c.outgoing = c'.outgoing) :
    Tracks start (l.add (.write c'))
      { o with hub := Hub.following Hub.resolve (o.hub.dispatch o.home false c) } := by
  obtain ⟨inline, htied⟩ := T.bonds hcalm
  obtain ⟨hhome, hscope, -, -⟩ := Bonds.mk.inj htied
  have hdeferred := T.defer hblind htied hc
  simp only [waitingFor] at hdeferred
  simp only [Hub.dispatch, hscope, hhome, if_true, Hub.following]
  rw [hhome] at hdeferred
  exact hdeferred

/-- What is pushed through a handle is issued, if an identifier is left; otherwise nobody is
called who would do anything. -/
theorem usePush (hblind : Codec.IsBlind κ) (T : Tracks start l o) (hcalm : o.IsCalm)
    (hindex : start.home.index < start.hub.mailboxes.length) (now : StreamId) (s : StreamRef)
    (hs : Headers) (kind : WatchKind) (label : String)
    (hcode : l.streams.hasNext = false → kind = .callback →
      ∀ r ∈ start.hub.reactions, r.label ≠ label) :
    Tracks start (l.push fun id => .pushPromise (s.resolve now) id hs .void)
      { o with hub := o.hub.use o.home false now (.push s hs kind label) } := by
  obtain ⟨hid, hreserved⟩ := T.reserve hblind hcalm hindex
  obtain ⟨inline, htied⟩ := hreserved.bonds hcalm
  unfold IssueLog.push Hub.use Hub.useOnce Hub.commandOf
  simp only
  rcases hr : o.hub.reserve o.home with ⟨e | id, hub⟩
  · rcases hr' : l.streams.reserve with ⟨e' | id', streams⟩
    · rw [hr, hr'] at hreserved
      have hwatched := hreserved.watch hblind o.home kind label none
      have hnobody : (hub.watch o.home kind label none).2.reactionTo
          (.watched (hub.watch o.home kind label none).1) = none := by
        refine Hub.reactionTo_eq_none fun hkind r hmem => ?_
        rw [hr] at htied
        have hreactions : hub.reactions = start.hub.reactions := congrArg Bonds.reactions htied
        exact hcode (LocalStreams.hasNext_of_reserve_error hr') hkind r (hreactions ▸ hmem)
      simp only [Hub.following]
      rw [Hub.resolve_eq_log hnobody]
      exact hwatched.record hblind o.home rfl rfl
    · rw [hr, hr'] at hid
      cases hid
  · rcases hr' : l.streams.reserve with ⟨e' | id', streams⟩
    · rw [hr, hr'] at hid
      cases hid
    · rw [hr, hr'] at hid hreserved
      cases hid
      exact (hreserved.watch hblind o.home kind label (some id)).dispatch hblind hcalm rfl

/-- A use of the bridge's own handle on a calm outlet. -/
theorem use (hblind : Codec.IsBlind κ) (T : Tracks start l o) (hcalm : o.IsCalm)
    (hindex : start.home.index < start.hub.mailboxes.length) (now : StreamId)
    {target : Option LoopId} {a : HandleAction}
    (hcode : ∀ label ∈ l.refusal (.handle target false a), ∀ r ∈ start.hub.reactions,
      r.label ≠ label) :
    Tracks start ((a.direct.map (l.writer now)).getD l)
      { o with hub := o.hub.use o.home false now a } := by
  cases a with
  | headers | data | frame | reset | goAway => exact T.dispatch hblind hcalm rfl
  | ping n label => exact (T.watch hblind o.home .future label none).dispatch hblind hcalm rfl
  | settings s label =>
      exact (T.watch hblind o.home .future label none).dispatch hblind hcalm rfl
  | push s hs kind label =>
      refine T.usePush hblind hcalm hindex now s hs kind label fun hnone hkind => hcode label ?_
      simp [IssueLog.refusal, hkind, hnone]
  | isClosed => exact T.record hblind o.home rfl rfl

/-- What was issued is kept up with, one action after the other. -/
theorem step (hblind : Codec.IsBlind κ) (T : Tracks start l o)
    (hindex : start.home.index < start.hub.mailboxes.length) (now : StreamId) {a : Action}
    (hown : a.IsOwn start.home)
    (hcode : ∀ label ∈ l.refusal a, ∀ r ∈ start.hub.reactions, r.label ≠ label) :
    Tracks start (l.action now a) (o.step true now a).state := by
  by_cases hcalm : o.IsCalm
  · cases a with
    | write a => exact T.act hblind hcalm hindex now hown
    | handle target offLoop a =>
        obtain ⟨htarget, rfl⟩ := hown
        obtain ⟨inline, htied⟩ := T.bonds hcalm
        have hhome : o.home = start.home := congrArg Bonds.home htied
        have huse := T.use hblind hcalm hindex now hcode
        simp only [Outlet.step, Run.state_done, hhome, htarget]
        rw [hhome] at huse
        exact huse
    | panic m => cases hown
  · exact T.lost hcalm (law_not_isCalm.step true now a (.of [] hcalm)) (l.issued_action now a)

/-- What application code issues is kept up with. -/
theorem program (hblind : Codec.IsBlind κ) (T : Tracks start l o)
    (hindex : start.home.index < start.hub.mailboxes.length) (now : StreamId) {as : List Action}
    (hown : ∀ a ∈ as, a.IsOwn start.home)
    (hcode : ∀ label ∈ l.refusals now as, ∀ r ∈ start.hub.reactions, r.label ≠ label) :
    Tracks start (l.program now as) (o.program true now as).state := by
  induction as generalizing l o with
  | nil => exact T
  | cons a as ih =>
      have hfirst := T.step hblind hindex now (hown a List.mem_cons_self) fun label hlabel =>
        hcode label (List.mem_append_left _ hlabel)
      have hrest : ∀ a' ∈ as, a'.IsOwn start.home := fun a' ha' =>
        hown a' (List.mem_cons_of_mem a ha')
      have hstop : (o.step true now a).stop = none := by
        cases a with
        | write a => rfl
        | handle target offLoop a => rfl
        | panic m => exact absurd (hown _ List.mem_cons_self) id
      unfold Outlet.program
      rw [Run.each, Run.andThen, hstop]
      exact ih hfirst hrest fun label hlabel => hcode label (List.mem_append_right _ hlabel)

/-- At first only the commands that wait already have been issued. -/
theorem waiting (hindex : o.home.index < o.hub.mailboxes.length) (inline : List Command)
    (hscope : o.hub.scope = some ⟨o.home, inline⟩) :
    Tracks (o.waitingFor []) ⟨(o.hub.mailbox o.home).streams, inline.map .write⟩ o where
  sight := by
    have ho : o = o.waitingFor inline := by
      unfold waitingFor
      rw [← hscope]
    have hsight := sight_catchUp_waitingFor o inline
    rw [← ho] at hsight
    rw [hsight, List.foldl_map]
    rfl
  bonds _ := by
    refine ⟨inline, ?_⟩
    have hmailboxes : (o.hub.mailboxes.modify o.home.index fun m =>
        { m with streams := (o.hub.mailbox o.home).streams }) = o.hub.mailboxes := by
      refine List.ext_getElem? fun i => ?_
      rw [List.getElem?_modify]
      by_cases hi : o.home.index = i
      · subst hi
        simp [Hub.mailbox, hindex]
      · simp [hi]
    simp only [Outlet.bonds, tied, waitingFor, hscope, hmailboxes]
  parts _ := by
    refine ⟨[], inline, rfl, ?_, rfl⟩
    rw [Hub.takeInline, hscope]

/-- In the end everything that was issued has been done, and nothing else. -/
theorem view_catchUp (T : Tracks start l o) (hcalm : o.catchUp.IsCalm) :
    (l.issued.foldl Outlet.serve start).IsCalm ∧
      o.catchUp.view = (l.issued.foldl Outlet.serve start).view := by
  have hsight := T.sight
  rw [sight_of_calm hcalm] at hsight
  obtain ⟨hserved, hview⟩ := calm_of_sight hsight.symm
  exact ⟨hserved, hview.symm⟩

/-- Nothing goes into the queue for code that runs elsewhere. -/
theorem queue_catchUp (T : Tracks start l o) (hcalm : o.catchUp.IsCalm) (loop : LoopId) :
    (o.catchUp.hub.mailbox loop).queue = (start.hub.mailbox loop).queue := by
  obtain ⟨inline, htied⟩ := T.bonds (isCalm_of_catchUp hcalm)
  have hbonds : o.catchUp.bonds = (o.waitingFor []).bonds := by
    rw [eq_waitingFor htied] at hcalm ⊢
    exact bonds_catchUp_waitingFor hcalm
  have hcaught : o.catchUp.hub.mailboxes = o.hub.mailboxes := congrArg Bonds.mailboxes hbonds
  have hstart : o.hub.mailboxes =
      start.hub.mailboxes.modify start.home.index fun m => { m with streams := l.streams } :=
    congrArg Bonds.mailboxes htied
  unfold Hub.mailbox
  rw [hcaught, hstart, List.getElem?_modify]
  by_cases hindex : start.home.index = loop.index
  · cases start.hub.mailboxes[loop.index]? <;> simp [hindex]
  · cases start.hub.mailboxes[loop.index]? <;> simp [hindex]

end Tracks

end Outlet

end FrameBridge
