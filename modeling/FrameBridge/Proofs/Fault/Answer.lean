import FrameBridge.Proofs.Fault.Handling
import FrameBridge.Proofs.Issue.Tracks
import FrameBridge.Proofs.Pushes.Numbers

/-!
# What a connection answers to an error

A connection that is told of an error has no writer, but it may use the handle of its bridge.  What
it writes in this way waits behind the commands that wait already, in the order of issue.

* `Hub.Issued` says of a hub what was written through the handle of a bridge since.
* `Turn.answer` is what the connection does when it is told of an error.
* `Turn.issued_announce` says what waits when the connection has been told.
-/

namespace FrameBridge

/-- The action uses the handle of a bridge on the loop of that bridge. -/
def Action.IsOwnUse (home : LoopId) : Action → Prop
  | .handle target offLoop _ => target.getD home = home ∧ offLoop = false
  | .write _ | .panic _ => False

/-- The frames that were asked for, in order. -/
def IssueLog.outgoings (l : IssueLog) : List Outgoing :=
  l.issued.filterMap fun
    | .write c => some c.outgoing
    | .giveBack .. => none

theorem IssueLog.outgoings_add (l : IssueLog) (c : Command) :
    (l.add (.write c)).outgoings = l.outgoings ++ [c.outgoing] := by
  simp [outgoings, add]

namespace Hub

/-- Where no identifier is left none is handed out, whatever handles are used for. -/
theorem law_exhausted (home : LoopId) {streams : LocalStreams} (hnone : streams.hasNext = false) :
    Law (fun _ => True) (Regardless fun h =>
      home.index < h.mailboxes.length ∧ (h.mailbox home).streams = streams) where
  good_of_faithful _ := trivial
  void hH := hH
  log {r _ h} _ hH := by
    unfold Hub.log
    split <;> exact hH
  forget _ _ _ hH := hH
  answered _ _ _ _ hH := hH
  issue _ _ _ _ _ _ hH := hH
  reserve loop _ h hH := by
    obtain ⟨hvalid, hstreams⟩ := hH
    let f (m : Mailbox) : Mailbox := { m with streams := (h.mailbox loop).streams.reserve.2 }
    refine ⟨(List.length_modify ..).symm ▸ hvalid, ?_⟩
    show ((h.modifyMailbox loop f).mailbox home).streams = streams
    by_cases hloop : home = loop
    · subst hloop
      have hkept : streams.reserve.2 = streams := by simp [LocalStreams.reserve, hnone]
      rw [mailbox_modifyMailbox hvalid]
      exact (congrArg (fun l : LocalStreams => l.reserve.2) hstreams).trans hkept
    · rw [mailbox_modifyMailbox_of_ne h hloop]
      exact hstreams
  inline _ _ hH := hH
  queue {c loop _ h} _ _ hH := by
    obtain ⟨hvalid, hstreams⟩ := hH
    refine ⟨(List.length_modify ..).symm ▸ hvalid, ?_⟩
    by_cases hloop : home = loop
    · subst hloop
      rw [mailbox_modifyMailbox hvalid]
      exact hstreams
    · rw [mailbox_modifyMailbox_of_ne h hloop]
      exact hstreams

/-- On a loop where some commands waited, application code has issued what a log says.

* `valid`, `streams`: identifiers are handed out as the log says.
* `waits`: the writes of the log wait behind the others, in order.  Nothing else has joined them if
  no code waited for a write that was refused at once. -/
structure Issued (home : LoopId) (left : List Command) (reactions : List Reaction)
    (nobody : Prop) (l : IssueLog) (h : Hub) : Prop where
  valid : home.index < h.mailboxes.length
  streams : (h.mailbox home).streams = l.streams
  waits : ∃ said, h.scope = some ⟨home, left ++ said⟩ ∧
    l.outgoings.Sublist (said.map (·.outgoing)) ∧
    (nobody → h.reactions = reactions ∧ said.map (·.outgoing) = l.outgoings)

namespace Issued

variable {home : LoopId} {left : List Command} {reactions : List Reaction} {nobody : Prop}
  {l : IssueLog} {h h' : Hub}

/-- Nothing has been issued yet. -/
theorem start (hvalid : home.index < h.mailboxes.length) (hscope : h.scope = some ⟨home, left⟩) :
    h.Issued home left h.reactions nobody ⟨(h.mailbox home).streams, []⟩ where
  valid := hvalid
  streams := rfl
  waits := ⟨[], by rw [hscope, List.append_nil], .slnil, fun _ => ⟨rfl, rfl⟩⟩

theorem congr (H : h.Issued home left reactions nobody l) (hmailboxes : h'.mailboxes = h.mailboxes)
    (hscope : h'.scope = h.scope) (hreactions : h'.reactions = h.reactions) :
    h'.Issued home left reactions nobody l where
  valid := hmailboxes ▸ H.valid
  streams := by
    simp only [mailbox, hmailboxes]
    exact H.streams
  waits := by
    rw [hscope, hreactions]
    exact H.waits

/-- A command that is sent from the loop itself waits behind the others. -/
theorem dispatch (H : h.Issued home left reactions nobody l) {c c' : Command}
    (hc : c.outgoing = c'.outgoing) :
    (following resolve (h.dispatch home false c)).Issued home left reactions nobody
      (l.add (.write c')) := by
  obtain ⟨said, hscope, hsaid, hexact⟩ := H.waits
  have hsent : following resolve (h.dispatch home false c) =
      { h with scope := some ⟨home, left ++ said ++ [c]⟩ } := by
    simp only [Hub.dispatch, hscope, if_true, following]
  rw [hsent]
  refine ⟨H.valid, H.streams, said ++ [c], by rw [List.append_assoc], ?_, fun h => ?_⟩
  · rw [IssueLog.outgoings_add, List.map_append, List.map_singleton, hc]
    exact hsaid.append (.refl _)
  · obtain ⟨hreactions, heq⟩ := hexact h
    refine ⟨hreactions, ?_⟩
    rw [IssueLog.outgoings_add, List.map_append, List.map_singleton, hc, heq]

theorem reserve (H : h.Issued home left reactions nobody l) :
    (h.reserve home).2.Issued home left reactions nobody
      { l with streams := l.streams.reserve.2 } where
  valid := (List.length_modify ..).symm ▸ H.valid
  streams := by
    let f (m : Mailbox) : Mailbox := { m with streams := (h.mailbox home).streams.reserve.2 }
    show ((h.modifyMailbox home f).mailbox home).streams = l.streams.reserve.2
    rw [mailbox_modifyMailbox H.valid, ← H.streams]
  waits := H.waits

/-- A write is refused because no identifier is left; only code that waits for it may write
then. -/
theorem refuse (H : h.Issued home left reactions nobody l) (hnone : l.streams.hasNext = false)
    {w : Watch} {e : BridgeError}
    (hcode : nobody → w.kind = .callback → ∀ r ∈ reactions, r.label ≠ w.label) :
    (h.resolve ⟨.watched w, .error e⟩).Issued home left reactions nobody l := by
  obtain ⟨said, hscope, hsaid, hexact⟩ := H.waits
  -- If some code waits for it, that code may write, but no identifier comes back by that.
  by_cases hnobody : nobody
  · have hnone : h.reactionTo (.watched w) = none :=
      reactionTo_eq_none fun hkind r hr =>
        hcode hnobody hkind r ((hexact hnobody).1 ▸ hr)
    rw [resolve_eq_log hnone]
    exact H.congr rfl rfl rfl
  · have L := (law_exhausted home hnone).and (law_leftWaiting home (left ++ said))
    have hwaits : ∃ more, h.scope = some ⟨home, left ++ said ++ more⟩ :=
      ⟨[], by rw [hscope, List.append_nil]⟩
    let r : Resolution := ⟨.watched w, .error e⟩
    obtain ⟨⟨hvalid, hstreams⟩, more, hmore⟩ := L.resolve (r := r) ⟨e, rfl⟩
      ⟨.of [r.promise] ⟨H.valid, H.streams⟩, .of [r.promise] hwaits⟩
    refine ⟨hvalid, hstreams, said ++ more, by rw [hmore, List.append_assoc], ?_,
      fun h => absurd h hnobody⟩
    rw [List.map_append]
    exact hsaid.trans (List.sublist_append_left _ _)

/-- What is pushed waits behind the others, if an identifier is left. -/
theorem push (H : h.Issued home left reactions nobody l) (now : StreamId) (s : StreamRef)
    (hs : Headers) (kind : WatchKind) (label : String)
    (hcode : nobody → l.streams.hasNext = false → kind = .callback →
      ∀ r ∈ reactions, r.label ≠ label) :
    (h.use home false now (.push s hs kind label)).Issued home left reactions nobody
      (l.push fun id => .pushPromise (s.resolve now) id hs .void) := by
  have hid : (h.reserve home).1 = l.streams.reserve.1 := by simp [Hub.reserve, H.streams]
  have hreserved := H.reserve
  unfold IssueLog.push Hub.use useOnce commandOf
  simp only
  rcases hr : h.reserve home with ⟨e | id, h'⟩
  -- The hub and the log hand out the same identifier or none, so two of four cases are empty.
  · rcases hr' : l.streams.reserve with ⟨e' | id', streams⟩
    · rw [hr, hr'] at hreserved
      have hnone := LocalStreams.hasNext_of_reserve_error hr'
      have hsame := LocalStreams.eq_of_reserve_error hr'
      rw [hsame] at hreserved ⊢
      have hwatched : (h'.watch home kind label none).2.Issued home left reactions nobody
          { l with streams := l.streams } := hreserved.congr rfl rfl rfl
      exact hwatched.refuse hnone fun hnobody => hcode hnobody hnone
    · rw [hr, hr'] at hid
      cases hid
  · rcases hr' : l.streams.reserve with ⟨e' | id', streams⟩
    · rw [hr, hr'] at hid
      cases hid
    · rw [hr, hr'] at hid hreserved
      cases hid
      have hwatched : (h'.watch home kind label (some id)).2.Issued home left reactions nobody
          { l with streams } := hreserved.congr rfl rfl rfl
      exact hwatched.dispatch rfl

/-- One use of the handle on the loop itself. -/
theorem use (H : h.Issued home left reactions nobody l) (now : StreamId) (target : Option LoopId)
    (a : HandleAction)
    (hcode : nobody → ∀ label ∈ l.refusal (.handle target false a), ∀ r ∈ reactions,
      r.label ≠ label) :
    (h.use home false now a).Issued home left reactions nobody
      (l.action now (.handle target false a)) := by
  cases a with
  | headers | data | frame | reset | goAway => exact H.dispatch rfl
  | ping n label =>
      have hwatched : (h.watch home .future label none).2.Issued home left reactions nobody l :=
        H.congr rfl rfl rfl
      exact hwatched.dispatch rfl
  | settings s label =>
      have hwatched : (h.watch home .future label none).2.Issued home left reactions nobody l :=
        H.congr rfl rfl rfl
      exact hwatched.dispatch rfl
  | push s hs kind label =>
      refine H.push now s hs kind label fun hnobody hnone hkind => ?_
      subst hkind
      refine hcode hnobody label ?_
      simp [IssueLog.refusal, hnone]
  | isClosed => exact H.congr rfl rfl rfl

end Issued

end Hub

/-- Code without a writer that only uses the handle of its bridge issues what its log says, and
touches nothing but the hub. -/
theorem Outlet.issued_program {κ : Type} [Codec κ] {o : Outlet κ} {left : List Command}
    {reactions : List Reaction} {nobody : Prop} {l : IssueLog} (now : StreamId)
    {actions : List Action} (hown : ∀ a ∈ actions, a.IsOwnUse o.home)
    (hcode : nobody → ∀ label ∈ l.refusals now actions, ∀ r ∈ reactions, r.label ≠ label)
    (H : o.hub.Issued o.home left reactions nobody l) :
    ∃ hub, o.program false now actions = .done { o with hub } ∧
      hub.Issued o.home left reactions nobody (l.program now actions) := by
  -- One action after the other: each is a use of the handle, which the log takes down as well.
  induction actions generalizing o l with
  | nil => exact ⟨o.hub, rfl, H⟩
  | cons a actions ih =>
      have hfirst := hown a List.mem_cons_self
      have hrest : ∀ a' ∈ actions, a'.IsOwnUse o.home :=
        fun a' h => hown a' (List.mem_cons_of_mem a h)
      cases a with
      | write | panic => exact absurd hfirst id
      | handle target offLoop a =>
          obtain ⟨htarget, rfl⟩ := hfirst
          have hused := H.use now target a fun hnobody label hlabel =>
            hcode hnobody label (List.mem_append_left _ hlabel)
          obtain ⟨hub, hprogram, hissued⟩ := ih (o := { o with hub := o.hub.use o.home false now a })
            hrest (fun hnobody label hlabel =>
              hcode hnobody label (List.mem_append_right _ hlabel)) hused
          refine ⟨hub, ?_, hissued⟩
          show ({ o with hub := o.hub.use (target.getD o.home) false now a } : Outlet κ).program
            false now actions = _
          rw [htarget]
          exact hprogram

/-- The call by which a connection is told of an error. -/
def ProtocolError.callback : ProtocolError → Callback
  | .stream s c m => .streamError s (.stream s c m)
  | .connection c m => .connectionError (.connection c m)

namespace Turn

variable {κ σ δ : Type} [Connection σ]

/-- What the connection does when it is told of something from the input side. -/
def handed (t : Turn κ σ δ) (c : Callback) : List Action :=
  match t.bridge.session with
  | none => []
  | some session =>
      if Connection.runsHandedOver session.connection then
        (Connection.respond session.connection c).2
      else []

/-- What the connection does when it is told of an error. -/
def answer (t : Turn κ σ δ) (e : ProtocolError) : List Action := t.handed e.callback

omit [Connection σ] in
/-- The log of application code that has not issued anything. -/
def freshLog (t : Turn κ σ δ) : IssueLog := ⟨(t.hub.mailbox t.bridge.id).streams, []⟩

variable [Codec κ] {t : Turn κ σ δ} {left : List Command} {reactions : List Reaction}
  {nobody : Prop} {l : IssueLog}

theorem issued_handOver {c : Callback} (hc : c.hasWriter = false)
    (hown : ∀ a ∈ t.handed c, a.IsOwnUse t.bridge.id)
    (hcode : nobody → ∀ label ∈ l.refusals c.currentStream (t.handed c), ∀ r ∈ reactions,
      r.label ≠ label)
    (H : t.hub.Issued t.bridge.id left reactions nobody l) :
    ∃ session hub, t.handOver c = .done { bridge := { t.bridge with session }, hub } ∧
      hub.Issued t.bridge.id left reactions nobody
        (l.program c.currentStream (t.handed c)) := by
  unfold handed at *
  unfold handOver
  cases hsession : t.bridge.session with
  | none => exact ⟨t.bridge.session, t.hub, rfl, H⟩
  | some session =>
      simp only [hsession] at hown hcode ⊢
      by_cases hruns : Connection.runsHandedOver session.connection = true
      · simp only [if_pos hruns] at hown hcode ⊢
        let called : Turn κ σ δ := (t.record .handedOver).record (.callback c)
        obtain ⟨hub, hprogram, hissued⟩ := Outlet.issued_program (o := called.outlet)
          c.currentStream hown hcode (H.congr rfl rfl rfl)
        have hcall : ((t.record .handedOver).callback session.connection c).2 =
            .done { called with hub } := by
          have hrun : called.program false c.currentStream
              (Connection.respond session.connection c).2 = .done { called with hub } :=
            congrArg (Run.map called.withOutlet) hprogram
          cases c with
          | frame f => cases hc
          | settings | streamClosed | writabilityChanged => cases hc
          | goAway | connectionError | streamError | closed => exact hrun
        refine ⟨some { session with
          connection := (Connection.respond session.connection c).1 }, hub, ?_, hissued⟩
        -- What the connection has become is put back into its session after the call.
        have htell : (t.record .handedOver).tell c =
            ((t.record .handedOver).callback session.connection c).2.map fun t' =>
              { t' with bridge := { t'.bridge with session := some { session with
                connection := (Connection.respond session.connection c).1 } } } := by
          simp only [tell, record, hsession]
          rfl
        rw [htell, hcall]
        rfl
      · simp only [if_neg hruns]
        refine ⟨some session, (t.record .handedOver).hub, ?_, H.congr rfl rfl rfl⟩
        rw [← hsession]
        rfl

/-- When the connection has been told of an error, what it wrote through the handle of its bridge
waits behind what waited before, and nothing else happened to the bridge. -/
theorem issued_announce {e : ProtocolError} (hvalid : t.bridge.id.index < t.hub.mailboxes.length)
    (hscope : t.hub.scope = some ⟨t.bridge.id, left⟩)
    (hown : ∀ a ∈ t.answer e, a.IsOwnUse t.bridge.id) :
    ∃ session hub, t.announce e = .done { bridge := { t.bridge with session }, hub } ∧
      hub.Issued t.bridge.id left t.hub.reactions
        (∀ label ∈ t.freshLog.refusals e.callback.currentStream (t.answer e),
          ∀ r ∈ t.hub.reactions, r.label ≠ label)
        (t.freshLog.program e.callback.currentStream (t.answer e)) := by
  have hstart (n : Notice) : (t.notice n).hub.Issued t.bridge.id left t.hub.reactions
      (∀ label ∈ t.freshLog.refusals e.callback.currentStream (t.answer e),
        ∀ r ∈ t.hub.reactions, r.label ≠ label) t.freshLog :=
    (Hub.Issued.start hvalid hscope).congr rfl rfl rfl
  cases e with
  | stream s c m => exact issued_handOver rfl hown id (hstart _)
  | connection c m => exact issued_handOver rfl hown id (hstart _)

end Turn

end FrameBridge
