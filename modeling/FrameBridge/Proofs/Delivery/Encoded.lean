import FrameBridge.Proofs.Law.Journal
import FrameBridge.Proofs.Law.Line

/-!
# The order of encoding

A codec of lines writes a line when it is called, or none, and the channel accepts the line at
once or never.  So the frames that a channel accepted are lines that its codec wrote, in the
order in which the codec was called.
-/

namespace FrameBridge

/-- The lines that the codec of a loop wrote so far, in order. -/
def encodedLines (journal : List Record) (loop : LoopId) : List Bytes :=
  (reported Entry.called? journal loop).flatMap LineCodec.linesOf

/-- The frames that a channel accepted are lines of its codec, in the order of its calls. -/
def IsEncoded (loop : LoopId) (journal : List Record) : Prop :=
  ((acceptedFrames journal loop).map (·.bytes)).Sublist (encodedLines journal loop)

namespace IsEncoded

variable {loop : LoopId} {journal : List Record}

theorem cons (h : IsEncoded loop journal) {r : Record} (hr : r.entry.accepted? = none) :
    IsEncoded loop (r :: journal) := by
  unfold IsEncoded encodedLines acceptedFrames
  rw [reported_cons_of_none _ hr, reported_cons, List.flatMap_append]
  exact h.trans (List.sublist_append_left _ _)

/-- A line that is accepted as soon as the codec was called stands behind all others. -/
theorem take (h : IsEncoded loop journal) (home : LoopId) {call : CodecCall} {f : Outbound}
    (hline : LineCodec.linesOf call = [f.bytes]) :
    IsEncoded loop (⟨home, .accepted f⟩ :: ⟨home, .codec call⟩ :: journal) := by
  unfold IsEncoded encodedLines acceptedFrames
  rw [reported_cons Entry.accepted?, reported_cons_of_none Entry.called? rfl,
    reported_cons_of_none Entry.accepted? rfl, reported_cons Entry.called?]
  -- Entries at another loop count on neither side.
  by_cases hhome : home = loop
  · simp only [hhome, if_true, List.map_append, List.flatMap_append]
    have hlast : LineCodec.linesOf call = [f.bytes] := hline
    simp only [Entry.accepted?, Entry.called?, Option.toList, List.map_cons, List.map_nil,
      List.flatMap_cons, List.flatMap_nil, List.append_nil, hlast]
    exact h.append (List.Sublist.refl _)
  · simp only [hhome, if_false, Option.toList_none, List.append_nil]
    exact h

end IsEncoded

theorem Hub.law_isEncoded (loop : LoopId) :
    Law (fun _ => True) (Regardless fun h => IsEncoded loop h.journal) := by
  refine law_journal (p := IsEncoded loop) fun r _ hr h => h.cons ?_
  cases he : r.entry <;> first | rfl | (rw [he] at hr; cases hr)

theorem IsEncoded.aside {loop home : LoopId} {h h' : Hub}
    (hencoded : IsEncoded loop h.journal) (ha : Hub.Aside home h h') : IsEncoded loop h'.journal := by
  rcases ha.journal with hsame | ⟨r, hr, hmore⟩
  · rw [hsame]
    exact hencoded
  · rw [hmore]
    refine hencoded.cons ?_
    cases he : r.entry <;> first | rfl | (rw [he] at hr; cases hr)

namespace Outlet

variable {loop : LoopId} {o : Outlet LineCodec}

/-- Notifications enter nothing into the journal. -/
theorem isEncoded_notifies {rs : List ChannelRequest} (hrs : ∀ r ∈ rs, ∃ e, r = .notify e)
    (h : IsEncoded loop o.hub.journal) : IsEncoded loop (rs.foldl carryOut o).hub.journal := by
  induction rs generalizing o with
  | nil => exact h
  | cons r rs ih =>
      obtain ⟨e, rfl⟩ := hrs r List.mem_cons_self
      have hrest : ∀ r ∈ rs, ∃ e, r = .notify e := fun r hr => hrs r (List.mem_cons_of_mem _ hr)
      exact ih hrest (o := o.carryOut (.notify e)) h

theorem isEncoded_accept (h : IsEncoded loop o.hub.journal) (codec : LineCodec) {call : CodecCall}
    {f : Outbound} (hline : LineCodec.linesOf call = [f.bytes]) :
    IsEncoded loop ({ o.record (.codec call) with codec }.accept f).hub.journal := by
  unfold accept
  cases hactive : o.channel.isActive with
  | true =>
      simp only [record, Channel.write_of_active hactive, hactive, if_true]
      exact h.take o.home hline
  | false =>
      simp only [record, Channel.write_of_inactive hactive, hactive]
      have hcalled : IsEncoded loop (o.hub.record o.home (.codec call)).journal := h.cons rfl
      exact (Hub.law_isEncoded loop).abandon (.of [f.promise] hcalled)

theorem isEncoded_close (h : IsEncoded loop o.hub.journal) :
    IsEncoded loop o.close.hub.journal := by
  unfold close
  simp only
  split
  · exact h
  · exact h

theorem law_isEncoded (loop : LoopId) : Law (fun _ => True)
    (Regardless fun o : Outlet LineCodec => IsEncoded loop o.hub.journal) where
  hub _ := Hub.law_isEncoded loop
  good_of_waiting _ _ _ := trivial
  take {ps o} h := by
    obtain ⟨s, hs⟩ := o.hub.takeInline_eq
    rw [hs]
    exact h
  encode {c ps o} _ h := by
    have hline : LineCodec.linesOf (.encode c.outgoing) = [(LineCodec.frameOf c).bytes] := rfl
    have haccepted :=
      isEncoded_accept h { o.codec with openStreams := o.codec.openAfter c.outgoing } hline
    have hrest : ∀ r ∈ o.codec.aftermath c.outgoing, ∃ e, r = .notify e :=
      fun r hr => LineCodec.notify_of_mem_aftermath hr
    have hencoded := isEncoded_notifies hrest haccepted
    exact hencoded
  call {α describe s ps o} hs h := by
    show IsEncoded loop (s.requests.foldl carryOut _).hub.journal
    rw [LineCodec.requests_of_isAnswer hs]
    -- The codec writes its line before anything else, so nothing comes in between.
    rcases LineCodec.linesOf_cases (describe s.result) with hnone | ⟨bytes, hline⟩
    · rw [hnone]
      exact h.cons rfl
    · rw [hline]
      exact isEncoded_accept h s.codec hline
  refer _ _ _ h := h
  flush h := h.cons rfl
  close h := isEncoded_close h
  raise _ _ _ h := h

end Outlet

/-- That frames are encoded in order is a law of bridges over a codec of lines. -/
theorem Turn.law_isEncoded {σ δ : Type} (loop : LoopId) : WholeLaw (fun _ => True)
    (Regardless fun t : Turn LineCodec σ δ => IsEncoded loop t.hub.journal) where
  outlet _ := Outlet.law_isEncoded loop
  record he h := h.cons (Entry.accepted?_of_isReport he)
  notice _ _ _ h := h
  meter _ _ _ h := h
  arrive _ _ _ h := h
  advance _ h := h
  session _ _ _ h := h
  blueprint h := h
  upgrade h := h
  channel _ _ _ _ h := h
  decoded _ _ _ h := h
  enterScope {ps t} _ h := by
    obtain ⟨s, hs⟩ := t.hub.enter_eq t.bridge.id
    rw [hs]
    exact h
  leaveScope {ps t} h := by
    obtain ⟨s, hs⟩ := t.hub.takeInline_eq
    rw [hs]
    exact h
  letGo {ps t} h := by
    have hcalled : IsEncoded loop (t.hub.record t.bridge.id (.codec .inactive)).journal :=
      h.cons rfl
    exact Outlet.isEncoded_notifies (o := { t.outlet.record (.codec .inactive) with
      codec := (Codec.deactivate t.bridge.codec).codec })
      (fun r hr => LineCodec.notify_of_mem_deactivate hr) hcalled
  markInactive h := h
  closed _ h := h

end FrameBridge
