import FrameBridge.Proofs.Law.Journal
import FrameBridge.Proofs.Law.Outlet

/-!
# The sight of an outlet

Nobody behind a channel can tell promises apart.  The sight of an outlet is what can be told:
its codec, its channel with the promises blotted out, the calls that its codec got, and the
frames that its channel accepted.  An outlet that has a fault or does not take writes any more
has no sight, since it drops promises and whoever watches them may do anything.

A codec that does not look at promises makes outlets that are equal at sight equal at sight,
and a write that leaves an outlet calm touches nothing of the hub besides the records.
-/

namespace FrameBridge

/-- The frame with the promise blotted out. -/
def Outbound.bare (f : Outbound) : Outbound := { f with promise := .void }

/-- The channel with the promises of its frames blotted out. -/
def Channel.bare (c : Channel) : Channel :=
  { c with pending := c.pending.map Outbound.bare, flushed := c.flushed.map Outbound.bare }

/-- The request with the promise blotted out. -/
def ChannelRequest.bare : ChannelRequest → ChannelRequest
  | .write bytes _ => .write bytes .void
  | .notify e => .notify e
  | .raise e => .raise e
  | .flush => .flush
  | .close => .close

/-- A codec appends a frame together with its promise and does not look at it: neither its
next state nor what it asks of the channel depends on which promise it was given. -/
def Codec.IsBlind (κ : Type) [Codec κ] : Prop :=
  ∀ (c : κ) (f : Outgoing) (p q : Promise),
    (Codec.encode c f p).codec = (Codec.encode c f q).codec ∧
      (Codec.encode c f p).requests.map ChannelRequest.bare =
        (Codec.encode c f q).requests.map ChannelRequest.bare

/-- The octets of the frame that an entry of the journal reports to have been accepted. -/
def Entry.taken? : Entry → Option Bytes
  | .accepted f => some f.bytes
  | _ => none

namespace Hub

/-- The calls that the codec of a loop got so far, oldest first. -/
def codecCalls (h : Hub) (loop : LoopId) : List CodecCall :=
  reported Entry.called? h.journal loop

/-- The octets of the frames that the channel of a loop accepted so far, oldest first. -/
def acceptedBytes (h : Hub) (loop : LoopId) : List Bytes :=
  reported Entry.taken? h.journal loop

theorem codecCalls_record (h : Hub) (loop : LoopId) (e : Entry) :
    (h.record loop e).codecCalls loop = h.codecCalls loop ++ e.called?.toList := by
  simp [codecCalls, record, reported_cons]

theorem codecCalls_record_of_none (h : Hub) {home : LoopId} (loop : LoopId) {e : Entry}
    (he : e.called? = none) : (h.record home e).codecCalls loop = h.codecCalls loop :=
  reported_cons_of_none Entry.called? he h.journal loop

/-- Whatever the users of handles and the callbacks of writes do, a codec does not hear of it. -/
theorem law_codecCalls (loop : LoopId) (calls : List CodecCall) :
    Law (fun _ => True) (Regardless fun h => h.codecCalls loop = calls) :=
  law_journal (p := fun j => reported Entry.called? j loop = calls) fun _ j hr hj =>
    (reported_cons_of_none Entry.called? (Entry.called?_of_isEcho hr) j loop).trans hj

theorem acceptedBytes_record (h : Hub) (loop : LoopId) (e : Entry) :
    (h.record loop e).acceptedBytes loop = h.acceptedBytes loop ++ e.taken?.toList := by
  simp [acceptedBytes, record, reported_cons]

end Hub

namespace Outlet

/-- What can be told of an outlet from behind its channel and its codec. -/
structure View (κ : Type) where
  home : LoopId
  codec : κ
  channel : Channel
  calls : List CodecCall
  accepted : List Bytes

namespace View

variable {κ : Type}

/-- The view after the channel accepted a frame. -/
def took (v : View κ) (bytes : Bytes) : View κ :=
  { v with
    channel := { v.channel with pending := v.channel.pending ++ [⟨bytes, .void⟩] }
    accepted := v.accepted ++ [bytes] }

/-- The view after the codec was called. -/
def asked (v : View κ) (call : CodecCall) (codec : κ) : View κ :=
  { v with codec, calls := v.calls ++ [call] }

end View

/-- What a write must not touch: where the outlet belongs, and what its hub holds besides
records. -/
structure Bonds where
  home : LoopId
  scope : Option Scope
  mailboxes : List Mailbox
  reactions : List Reaction

variable {κ : Type} {o o' : Outlet κ}

def view (o : Outlet κ) : View κ :=
  ⟨o.home, o.codec, o.channel.bare, o.hub.codecCalls o.home, o.hub.acceptedBytes o.home⟩

def bonds (o : Outlet κ) : Bonds := ⟨o.home, o.hub.scope, o.hub.mailboxes, o.hub.reactions⟩

/-- Writes are accepted, and no fault waits. -/
def IsCalm (o : Outlet κ) : Prop := o.channel.isActive = true ∧ o.channel.hasFault = false

instance (o : Outlet κ) : Decidable o.IsCalm := inferInstanceAs (Decidable (_ ∧ _))

/-- What can be told of a calm outlet; there is nothing to tell of any other. -/
def sight (o : Outlet κ) : Option (View κ) := if o.IsCalm then some o.view else none

theorem sight_of_calm (h : o.IsCalm) : o.sight = some o.view := if_pos h

theorem sight_of_not_calm (h : ¬ o.IsCalm) : o.sight = none := if_neg h

theorem calm_of_sight {v : View κ} (h : o.sight = some v) : o.IsCalm ∧ o.view = v := by
  unfold sight at h
  split at h
  · rename_i hcalm
    exact ⟨hcalm, Option.some.inj h⟩
  · cases h

theorem isCalm_iff_of_view (h : o.view = o'.view) : o.IsCalm ↔ o'.IsCalm := by
  have hactive : o.channel.isActive = o'.channel.isActive :=
    congrArg (fun v : View κ => v.channel.isActive) h
  have hfault : o.channel.hasFault = o'.channel.hasFault :=
    congrArg (fun v : View κ => v.channel.hasFault) h
  unfold IsCalm
  rw [hactive, hfault]

theorem sight_of_view (h : o.view = o'.view) : o.sight = o'.sight := by
  unfold sight
  rw [h]
  simp only [isCalm_iff_of_view h]

/-- Outlets that are equal at sight are both calm, and look alike, or neither is calm. -/
theorem sight_eq_cases (h : o.sight = o'.sight) :
    (o.IsCalm ∧ o'.IsCalm ∧ o.view = o'.view) ∨ (¬ o.IsCalm ∧ ¬ o'.IsCalm) := by
  by_cases hcalm : o.IsCalm
  · rw [sight_of_calm hcalm] at h
    obtain ⟨hcalm', hview⟩ := calm_of_sight h.symm
    exact .inl ⟨hcalm, hcalm', hview.symm⟩
  · refine .inr ⟨hcalm, fun hcalm' => ?_⟩
    rw [sight_of_not_calm hcalm, sight_of_calm hcalm'] at h
    cases h

/-! ### What is asked of the channel -/

/-- A channel that takes writes takes in a frame. -/
theorem accept_of_isActive (h : o.channel.isActive = true) (f : Outbound) :
    o.accept f = { o with
      channel := { o.channel with pending := o.channel.pending ++ [f] }
      hub := (o.hub.record o.home (.accepted f)).meter Metrics.countOutbound } := by
  simp [accept, h, Hub.resolveAll]

theorem view_accept (h : o.channel.isActive = true) (f : Outbound) :
    (o.accept f).view = o.view.took f.bytes := by
  rw [accept_of_isActive h]
  simp only [view, View.took, Hub.meter, Channel.bare, List.map_append, List.map_cons,
    List.map_nil, Outbound.bare]
  congr 1
  · exact (o.hub.codecCalls_record o.home (.accepted f)).trans (List.append_nil _)
  · exact o.hub.acceptedBytes_record o.home (.accepted f)

theorem view_flush (o : Outlet κ) :
    o.flush.view = { o.view with channel := o.view.channel.flush } := by
  have hcalls := o.hub.codecCalls_record o.home .flushed
  have haccepted := o.hub.acceptedBytes_record o.home .flushed
  simp only [Entry.called?, Entry.taken?, Option.toList, List.append_nil] at hcalls haccepted
  simp only [view, flush, record, hcalls, haccepted, Channel.flush, Channel.bare, List.map_append,
    List.map_nil]

/-- Whether writes are accepted is not changed by one of them. -/
theorem isCalm_accept (o : Outlet κ) (f : Outbound) : (o.accept f).IsCalm ↔ o.IsCalm := by
  have hchannel : (o.accept f).channel = (o.channel.write f).1 := rfl
  unfold IsCalm
  rw [hchannel]
  cases hactive : o.channel.isActive with
  | true =>
      rw [Channel.write_of_active hactive, ← hactive]
      exact Iff.rfl
  | false => rw [Channel.write_of_inactive hactive, hactive]

theorem not_isCalm_raise (o : Outlet κ) (e : BridgeError) :
    ¬ IsCalm { o with channel := o.channel.raise e } := by
  intro h
  have hfault : (o.channel.raise e).hasFault = false := h.2
  simp [Channel.raise, Channel.hasFault] at hfault

theorem not_isCalm_close (o : Outlet κ) : ¬ o.close.IsCalm := by
  intro h
  have hactive : o.channel.requestClose.isActive = true := h.1
  rw [Channel.isActive_requestClose] at hactive
  cases hactive

theorem isCalm_of_carryOut {r : ChannelRequest} (h : (o.carryOut r).IsCalm) : o.IsCalm := by
  cases r with
  | write bytes p => exact (isCalm_accept o _).mp h
  | notify e => exact h
  | raise e => exact absurd h (not_isCalm_raise o e)
  | flush => exact h
  | close => exact absurd h (not_isCalm_close o)

/-- An outlet was calm before steps that only calm outlets survive. -/
theorem isCalm_of_foldl {β : Type} {g : Outlet κ → β → Outlet κ}
    (hg : ∀ o b, (g o b).IsCalm → o.IsCalm) {bs : List β} (h : (bs.foldl g o).IsCalm) :
    o.IsCalm := by
  induction bs generalizing o with
  | nil => exact h
  | cons b bs ih => exact hg o b (ih h)

theorem isCalm_of_foldl_carryOut {rs : List ChannelRequest}
    (h : (rs.foldl carryOut o).IsCalm) : o.IsCalm :=
  isCalm_of_foldl (fun _ _ => isCalm_of_carryOut) h

theorem sight_flush (h : o.sight = o'.sight) : o.flush.sight = o'.flush.sight := by
  rcases sight_eq_cases h with ⟨-, -, hview⟩ | ⟨hrough, hrough'⟩
  · apply sight_of_view
    rw [view_flush, view_flush, hview]
  · have hflush : ¬ o.flush.IsCalm := hrough
    have hflush' : ¬ o'.flush.IsCalm := hrough'
    rw [sight_of_not_calm hflush, sight_of_not_calm hflush']

/-- What looks the same to the channel changes outlets that are equal at sight alike. -/
theorem sight_carryOut (h : o.sight = o'.sight) {r r' : ChannelRequest}
    (hr : r.bare = r'.bare) : (o.carryOut r).sight = (o'.carryOut r').sight := by
  rcases sight_eq_cases h with ⟨hcalm, hcalm', hview⟩ | ⟨hrough, hrough'⟩
  · cases r <;> cases r' <;> simp only [ChannelRequest.bare, reduceCtorEq,
      ChannelRequest.write.injEq, ChannelRequest.notify.injEq, ChannelRequest.raise.injEq] at hr
    case write.write bytes p bytes' p' =>
      apply sight_of_view
      simp only [carryOut]
      rw [view_accept hcalm.1, view_accept hcalm'.1, hview, hr.1]
    case notify.notify e e' =>
      subst hr
      exact sight_of_view
        (congrArg (fun v : View κ => { v with channel := v.channel.notify e }) hview)
    case raise.raise e e' =>
      exact (sight_of_not_calm (not_isCalm_raise o e)).trans
        (sight_of_not_calm (not_isCalm_raise o' e')).symm
    case flush.flush => exact sight_flush h
    case close.close =>
      exact (sight_of_not_calm (not_isCalm_close o)).trans
        (sight_of_not_calm (not_isCalm_close o')).symm
  · rw [sight_of_not_calm fun h => hrough (isCalm_of_carryOut h),
      sight_of_not_calm fun h => hrough' (isCalm_of_carryOut h)]

theorem sight_foldl_carryOut (h : o.sight = o'.sight) {rs rs' : List ChannelRequest}
    (hrs : rs.map ChannelRequest.bare = rs'.map ChannelRequest.bare) :
    (rs.foldl carryOut o).sight = (rs'.foldl carryOut o').sight := by
  induction rs generalizing o o' rs' with
  | nil =>
      obtain rfl := List.map_eq_nil_iff.mp hrs.symm
      exact h
  | cons r rs ih =>
      obtain ⟨r', rest, rfl, hr, hrest⟩ := List.map_eq_cons_iff.mp hrs.symm
      exact ih (sight_carryOut h hr.symm) hrest.symm

/-! ### What is asked of the codec -/

theorem view_called (o : Outlet κ) (call : CodecCall) (codec : κ) :
    view { o.record (.codec call) with codec } = o.view.asked call codec := by
  have hcalls := o.hub.codecCalls_record o.home (.codec call)
  have haccepted := o.hub.acceptedBytes_record o.home (.codec call)
  simp only [Entry.called?, Entry.taken?, Option.toList, List.append_nil] at hcalls haccepted
  simp only [view, View.asked, record, hcalls, haccepted]

theorem isCalm_of_call {α : Type} {describe : α → CodecCall} {s : CodecStep κ α}
    (h : (o.call describe s).2.IsCalm) : o.IsCalm :=
  isCalm_of_foldl_carryOut (o := { o.record (.codec (describe s.result)) with codec := s.codec }) h

/-- Steps of the codec that differ in promises alone change outlets that are equal at sight
alike. -/
theorem sight_call (h : o.sight = o'.sight) {α : Type} (describe : α → CodecCall)
    {s s' : CodecStep κ α} (hs : o.codec = o'.codec → s.codec = s'.codec ∧ s.result = s'.result ∧
      s.requests.map ChannelRequest.bare = s'.requests.map ChannelRequest.bare) :
    (o.call describe s).2.sight = (o'.call describe s').2.sight := by
  rcases sight_eq_cases h with ⟨-, -, hview⟩ | ⟨hrough, hrough'⟩
  · obtain ⟨hcodec, hresult, hrequests⟩ := hs (congrArg View.codec hview)
    apply sight_foldl_carryOut _ hrequests
    apply sight_of_view
    rw [view_called, view_called, hview, hcodec, hresult]
  · rw [sight_of_not_calm fun h => hrough (isCalm_of_call h),
      sight_of_not_calm fun h => hrough' (isCalm_of_call h)]

variable [Codec κ]

/-- An outlet that is not calm does not become calm by anything that is written. -/
theorem law_not_isCalm :
    Law (fun _ => True) (Regardless fun o : Outlet κ => ¬ o.IsCalm) where
  hub o := Hub.law_of_constant (¬ o.IsCalm)
  good_of_waiting _ _ _ := trivial
  take h := h
  encode _ h hcalm := h (isCalm_of_call hcalm)
  call _ h hcalm := h (isCalm_of_call hcalm)
  refer _ _ _ h := h
  flush h := h
  close {_ o} _ := not_isCalm_close o
  raise e _ o _ := not_isCalm_raise o (.protocol e)

theorem sight_drain (h : o.sight = o'.sight) : o.drain.sight = o'.drain.sight := by
  rcases sight_eq_cases h with ⟨-, -, hview⟩ | ⟨hrough, hrough'⟩
  · have hcodec : o.codec = o'.codec := congrArg View.codec hview
    have hcall : (o.call .drain (Codec.drain o.codec)).2.sight =
        (o'.call .drain (Codec.drain o'.codec)).2.sight := by
      refine sight_call h .drain fun _ => ?_
      rw [hcodec]
      exact ⟨rfl, rfl, rfl⟩
    have hdrain (o : Outlet κ) : o.drain =
        orRaise ((Codec.drain o.codec).result, (o.call .drain (Codec.drain o.codec)).2) := rfl
    rw [hdrain o, hdrain o', ← hcodec] at *
    cases (Codec.drain o.codec).result with
    | ok u => exact hcall
    | error e =>
        exact (sight_of_not_calm (not_isCalm_raise _ _)).trans
          (sight_of_not_calm (not_isCalm_raise _ _)).symm
  · rw [sight_of_not_calm (law_not_isCalm.drain (.of [] hrough)),
      sight_of_not_calm (law_not_isCalm.drain (.of [] hrough'))]

theorem sight_afterEncoding (h : o.sight = o'.sight) {c c' : Command}
    (hc : c.outgoing = c'.outgoing) : (o.afterEncoding c).sight = (o'.afterEncoding c').sight := by
  cases c <;> cases c' <;> simp only [Command.outgoing, reduceCtorEq, Outgoing.data.injEq] at hc
  case data.data s d ends s' d' ends' =>
    obtain ⟨rfl, -, -, rfl⟩ := hc
    simp only [afterEncoding]
    rcases sight_eq_cases h with ⟨-, -, hview⟩ | ⟨hrough, hrough'⟩
    · have hcodec : o.codec = o'.codec := congrArg View.codec hview
      rw [hcodec]
      split
      · exact sight_flush (sight_drain h)
      · exact sight_flush h
    · have hflush := law_not_isCalm.afterEncoding (.data s d ends) (.of [] hrough)
      have hflush' := law_not_isCalm.afterEncoding (.data s d ends) (.of [] hrough')
      exact (sight_of_not_calm hflush).trans (sight_of_not_calm hflush').symm
  case pushPromise.pushPromise => exact h
  all_goals exact sight_flush h

theorem perform_of_isCalm (h : o.IsCalm) (c : Command) :
    o.perform c = (o.encode c.outgoing c.promise).afterEncoding c := by
  simp [perform, h.2]

/-- Commands that ask for the same frame change outlets that are equal at sight alike. -/
theorem sight_perform (hblind : Codec.IsBlind κ) (h : o.sight = o'.sight) {c c' : Command}
    (hc : c.outgoing = c'.outgoing) : (o.perform c).sight = (o'.perform c').sight := by
  rcases sight_eq_cases h with ⟨hcalm, hcalm', -⟩ | ⟨hrough, hrough'⟩
  · have hencode : (o.encode c.outgoing c.promise).sight =
        (o'.encode c.outgoing c'.promise).sight := by
      refine sight_call h (fun _ => .encode c.outgoing) fun hcodec => ?_
      obtain ⟨hnext, hrequests⟩ := hblind o.codec c.outgoing c.promise c'.promise
      rw [← hcodec]
      exact ⟨hnext, rfl, hrequests⟩
    rw [perform_of_isCalm hcalm, perform_of_isCalm hcalm', ← hc]
    exact sight_afterEncoding hencode hc
  · rw [sight_of_not_calm (law_not_isCalm.perform trivial (.of [c.promise] hrough)),
      sight_of_not_calm (law_not_isCalm.perform trivial (.of [c'.promise] hrough'))]

theorem sight_giveBack (h : o.sight = o'.sight) (s : StreamId) (n : UInt32) :
    (o.giveBack s n).sight = (o'.giveBack s n).sight := by
  rcases sight_eq_cases h with ⟨hcalm, hcalm', hview⟩ | ⟨hrough, hrough'⟩
  · have hcodec : o.codec = o'.codec := congrArg View.codec hview
    have hcall : (o.call (.consume s n) (Codec.consume o.codec s n)).2.sight =
        (o'.call (.consume s n) (Codec.consume o'.codec s n)).2.sight := by
      refine sight_call h (.consume s n) fun _ => ?_
      rw [hcodec]
      exact ⟨rfl, rfl, rfl⟩
    unfold giveBack
    rw [hcalm.2, hcalm'.2, ← hcodec] at *
    simp only [call] at hcall ⊢
    cases hresult : (Codec.consume o.codec s n).result with
    | ok told =>
        rw [hresult] at hcall
        cases told with
        | true => exact sight_flush hcall
        | false => exact hcall
    | error e =>
        exact (sight_of_not_calm (not_isCalm_raise _ _)).trans
          (sight_of_not_calm (not_isCalm_raise _ _)).symm
  · rw [sight_of_not_calm (law_not_isCalm.giveBack s n (.of [] hrough)),
      sight_of_not_calm (law_not_isCalm.giveBack s n (.of [] hrough'))]

/-! ### What is left alone -/

omit [Codec κ] in
theorem bonds_carryOut {r : ChannelRequest} (h : (o.carryOut r).IsCalm) :
    (o.carryOut r).bonds = o.bonds := by
  cases r with
  | write bytes p =>
      have hcalm := (isCalm_accept o _).mp h
      simp only [carryOut]
      rw [accept_of_isActive hcalm.1]
      rfl
  | notify e => rfl
  | raise e => rfl
  | flush => rfl
  | close => exact absurd h (not_isCalm_close o)

omit [Codec κ] in
theorem bonds_foldl_carryOut {rs : List ChannelRequest} (h : (rs.foldl carryOut o).IsCalm) :
    (rs.foldl carryOut o).bonds = o.bonds := by
  induction rs generalizing o with
  | nil => rfl
  | cons r rs ih => exact (ih h).trans (bonds_carryOut (isCalm_of_foldl_carryOut h))

omit [Codec κ] in
theorem bonds_call {α : Type} {describe : α → CodecCall} {s : CodecStep κ α}
    (h : (o.call describe s).2.IsCalm) : (o.call describe s).2.bonds = o.bonds :=
  bonds_foldl_carryOut
    (o := { o.record (.codec (describe s.result)) with codec := s.codec }) h

theorem bonds_drain (h : o.drain.IsCalm) : o.drain.bonds = o.bonds := by
  unfold drain call at h ⊢
  cases hresult : (Codec.drain o.codec).result with
  | ok u =>
      simp only [hresult, orRaise] at h ⊢
      exact bonds_foldl_carryOut h
  | error e =>
      simp only [hresult, orRaise] at h
      exact absurd h (not_isCalm_raise _ _)

theorem bonds_afterEncoding (c : Command) (h : (o.afterEncoding c).IsCalm) :
    (o.afterEncoding c).bonds = o.bonds := by
  cases c with
  | data s d ends =>
      simp only [afterEncoding] at h ⊢
      split at h
      · rename_i hdrained
        rw [if_pos hdrained]
        exact bonds_drain h
      · rename_i hplain
        rw [if_neg hplain]
        rfl
  | headers | ping | frame | reset | goAway | settings | pushPromise => rfl

theorem isCalm_of_perform {c : Command} (h : (o.perform c).IsCalm) : o.IsCalm := by
  by_cases hcalm : o.IsCalm
  · exact hcalm
  · exact absurd h (law_not_isCalm.perform trivial (.of [c.promise] hcalm))

/-- A write that leaves an outlet calm touches nothing else. -/
theorem bonds_perform {c : Command} (h : (o.perform c).IsCalm) :
    (o.perform c).bonds = o.bonds := by
  have hcalm := isCalm_of_perform h
  rw [perform_of_isCalm hcalm] at h ⊢
  by_cases hencode : (o.encode c.outgoing c.promise).IsCalm
  · exact (bonds_afterEncoding c h).trans (bonds_call hencode)
  · exact absurd h (law_not_isCalm.afterEncoding c (.of [] hencode))

theorem isCalm_of_giveBack {s : StreamId} {n : UInt32} (h : (o.giveBack s n).IsCalm) :
    o.IsCalm := by
  by_cases hcalm : o.IsCalm
  · exact hcalm
  · exact absurd h (law_not_isCalm.giveBack s n (.of [] hcalm))

theorem bonds_giveBack {s : StreamId} {n : UInt32} (h : (o.giveBack s n).IsCalm) :
    (o.giveBack s n).bonds = o.bonds := by
  have hfault := (isCalm_of_giveBack h).2
  unfold giveBack call at h ⊢
  rw [hfault] at h ⊢
  cases hresult : (Codec.consume o.codec s n).result with
  | ok told =>
      simp only [hresult] at h ⊢
      cases told with
      | true => exact bonds_foldl_carryOut h
      | false => exact bonds_foldl_carryOut h
  | error e =>
      simp only [hresult] at h
      exact absurd h (not_isCalm_raise _ _)

end Outlet

end FrameBridge
