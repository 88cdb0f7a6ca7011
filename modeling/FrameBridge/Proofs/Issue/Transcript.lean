import FrameBridge.Proofs.Issue.Deferred

/-!
# Transcripts

Which calls the codec gets for what is asked of it, as long as nothing fails: one for each, and
after data perhaps another one that drains it.
-/

namespace FrameBridge

/-- The calls to a codec that what was issued comes down to, in order. -/
inductive IsTranscript : List Issue → List CodecCall → Prop
  | nil : IsTranscript [] []
  | write (c : Command) {is : List Issue} {calls : List CodecCall} (rest : IsTranscript is calls) :
      IsTranscript (.write c :: is) (.encode c.outgoing :: calls)
  | drained (s : StreamId) (d : Bytes) (ends : Bool) (r : Except ProtocolError Unit)
      {is : List Issue} {calls : List CodecCall} (rest : IsTranscript is calls) :
      IsTranscript (.write (.data s d ends) :: is) (.encode (.data s d 0 ends) :: .drain r :: calls)
  | giveBack (s : StreamId) (n : UInt32) (r : Except ProtocolError Bool) {is : List Issue}
      {calls : List CodecCall} (rest : IsTranscript is calls) :
      IsTranscript (.giveBack s n :: is) (.consume s n r :: calls)

theorem IsTranscript.append {is js : List Issue} {calls more : List CodecCall}
    (h : IsTranscript is calls) (h' : IsTranscript js more) :
    IsTranscript (is ++ js) (calls ++ more) := by
  induction h with
  | nil => exact h'
  | write c _ ih => exact .write c ih
  | drained s d ends r _ ih => exact .drained s d ends r ih
  | giveBack s n r _ ih => exact .giveBack s n r ih

/-- Commands without data make one call each. -/
theorem IsTranscript.encodes {cs : List Command} {calls : List CodecCall}
    (h : IsTranscript (cs.map .write) calls)
    (hdata : ∀ s d n ends, Outgoing.data s d n ends ∉ cs.map (·.outgoing)) :
    calls = (cs.map (·.outgoing)).map .encode := by
  induction cs generalizing calls with
  | nil =>
      cases h
      rfl
  | cons c cs ih =>
      have hrest (s : StreamId) (d : Bytes) (n : UInt8) (ends : Bool) :
          Outgoing.data s d n ends ∉ cs.map (·.outgoing) :=
        fun h => hdata s d n ends (List.mem_cons_of_mem _ h)
      cases h with
      | write _ rest => rw [ih rest hrest, List.map_cons, List.map_cons]
      | drained s d ends r rest => exact absurd List.mem_cons_self (hdata s d 0 ends)

namespace Outlet

variable {κ : Type} {o : Outlet κ}

theorem calls_flush (o : Outlet κ) : o.flush.view.calls = o.view.calls := by
  rw [view_flush]

theorem calls_carryOut {r : ChannelRequest} (h : (o.carryOut r).IsCalm) :
    (o.carryOut r).view.calls = o.view.calls := by
  cases r with
  | write bytes p =>
      show (o.accept ⟨bytes, p⟩).view.calls = o.view.calls
      rw [view_accept ((isCalm_accept o _).mp h).1]
      rfl
  | notify e => rfl
  | raise e => rfl
  | flush => exact calls_flush o
  | close => exact absurd h (not_isCalm_close o)

theorem calls_foldl_carryOut {rs : List ChannelRequest} (h : (rs.foldl carryOut o).IsCalm) :
    (rs.foldl carryOut o).view.calls = o.view.calls := by
  induction rs generalizing o with
  | nil => rfl
  | cons r rs ih => exact (ih h).trans (calls_carryOut (isCalm_of_foldl_carryOut h))

/-- A call to the codec is the only call that its requests add. -/
theorem calls_call {α : Type} {describe : α → CodecCall} {s : CodecStep κ α}
    (h : (o.call describe s).2.IsCalm) :
    (o.call describe s).2.view.calls = o.view.calls ++ [describe s.result] := by
  have hcalled : view { o.record (.codec (describe s.result)) with codec := s.codec } = _ :=
    view_called o _ _
  exact (calls_foldl_carryOut h).trans (congrArg View.calls hcalled)

variable [Codec κ]

theorem calls_drain (h : o.drain.IsCalm) :
    ∃ r, o.drain.view.calls = o.view.calls ++ [.drain r] := by
  have hcall (hcalm : (o.call .drain (Codec.drain o.codec)).2.IsCalm) :
      (o.call .drain (Codec.drain o.codec)).2.view.calls =
        o.view.calls ++ [.drain (Codec.drain o.codec).result] := calls_call hcalm
  unfold drain call at h ⊢
  cases hresult : (Codec.drain o.codec).result with
  | ok u =>
      simp only [call, hresult] at hcall
      simp only [hresult, orRaise] at h ⊢
      exact ⟨_, hcall h⟩
  | error e =>
      simp only [hresult, orRaise] at h
      exact absurd h (not_isCalm_raise _ _)

theorem transcript_perform {c : Command} (h : (o.perform c).IsCalm) :
    ∃ made, IsTranscript [.write c] made ∧ (o.perform c).view.calls = o.view.calls ++ made := by
  have hcalm := isCalm_of_perform h
  rw [perform_of_isCalm hcalm] at h ⊢
  -- What is calm in the end was calm before the drain and the flush.
  have hencode : (o.encode c.outgoing c.promise).IsCalm := by
    by_cases hencode : (o.encode c.outgoing c.promise).IsCalm
    · exact hencode
    · exact absurd h (law_not_isCalm.afterEncoding c (.of [] hencode))
  have hcalls : (o.encode c.outgoing c.promise).view.calls = _ := calls_call hencode
  cases c with
  | pushPromise s promised hs p => exact ⟨_, .write _ .nil, hcalls⟩
  | data s d ends =>
      simp only [afterEncoding] at h ⊢
      split at h
      · rename_i hdrained
        obtain ⟨r, hdrain⟩ := calls_drain h
        refine ⟨_, .drained s d ends r .nil, ?_⟩
        rw [if_pos hdrained, calls_flush, hdrain, hcalls, List.append_assoc]
        rfl
      · rename_i hplain
        refine ⟨_, .write _ .nil, ?_⟩
        rw [if_neg hplain, calls_flush, hcalls]
  | headers | ping | frame | reset | goAway | settings =>
      exact ⟨_, .write _ .nil, (calls_flush _).trans hcalls⟩

theorem transcript_giveBack {s : StreamId} {n : UInt32} (h : (o.giveBack s n).IsCalm) :
    ∃ made, IsTranscript [.giveBack s n] made ∧
      (o.giveBack s n).view.calls = o.view.calls ++ made := by
  have hfault := (isCalm_of_giveBack h).2
  have hcall (hcalm : (o.call (.consume s n) (Codec.consume o.codec s n)).2.IsCalm) :
      (o.call (.consume s n) (Codec.consume o.codec s n)).2.view.calls =
        o.view.calls ++ [.consume s n (Codec.consume o.codec s n).result] := calls_call hcalm
  unfold giveBack call at h ⊢
  rw [hfault] at h ⊢
  refine ⟨_, .giveBack s n (Codec.consume o.codec s n).result .nil, ?_⟩
  cases hresult : (Codec.consume o.codec s n).result with
  | ok told =>
      simp only [call, hresult] at hcall h ⊢
      cases told with
      | true =>
          have hview := view_flush (o.call (.consume s n) (Codec.consume o.codec s n)).2
          simp only [call, hresult] at hview
          exact (congrArg View.calls hview).trans (hcall h)
      | false => exact hcall h
  | error e =>
      simp only [hresult] at h
      exact absurd h (not_isCalm_raise _ _)

theorem transcript_serve {i : Issue} (h : (o.serve i).IsCalm) :
    ∃ made, IsTranscript [i] made ∧ (o.serve i).view.calls = o.view.calls ++ made := by
  cases i with
  | write c => exact transcript_perform h
  | giveBack s n => exact transcript_giveBack h

/-- What is done one after the other without a failure makes just these calls, in this order. -/
theorem transcript_foldl_serve {is : List Issue} (h : (is.foldl serve o).IsCalm) :
    ∃ made, IsTranscript is made ∧ (is.foldl serve o).view.calls = o.view.calls ++ made := by
  induction is generalizing o with
  | nil => exact ⟨[], .nil, (List.append_nil _).symm⟩
  | cons i is ih =>
      obtain ⟨first, hfirst, hcalls⟩ := transcript_serve (isCalm_of_foldl_serve h)
      obtain ⟨rest, hrest, hall⟩ := ih h
      refine ⟨first ++ rest, hfirst.append hrest, ?_⟩
      rw [List.foldl_cons, hall, hcalls, List.append_assoc]

end Outlet

end FrameBridge
