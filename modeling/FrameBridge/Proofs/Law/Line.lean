import FrameBridge.Proofs.Law.Steady
import FrameBridge.Rehearsal.LineCodec

/-!
# Laws of bridges over a codec of lines

A codec of lines hands each promise on with the line of its frame, and writes nothing else
that anybody watches.  What has to be shown of a law then is what the channel and the hub do;
the codec itself needs no attention.

* `LineLaw` lists what has to be shown.
* `LineLaw.turn` says that this is enough for a law of turns.
* `PlainLaw` lists what has to be shown where no promise and no scope is spoken of.
-/

namespace FrameBridge

/-- The frame that a command becomes. -/
def LineCodec.frameOf (c : Command) : Outbound :=
  ⟨Bytes.ofText (line c.outgoing ++ "\n"), c.promise⟩

/-- A request of a codec that hands the channel no promise of anybody. -/
inductive ChannelRequest.IsQuiet : ChannelRequest → Prop
  | write (bytes : Bytes) : IsQuiet (.write bytes .void)
  | notify (e : Event) : IsQuiet (.notify e)

/-- The lines that a codec of lines writes when it is called. -/
def LineCodec.linesOf : CodecCall → List Bytes
  | .preface => [Bytes.ofText ("Preface" ++ "\n")]
  | .encode f => [Bytes.ofText (line f ++ "\n")]
  | .drain (.ok _) => [Bytes.ofText ("WritePending" ++ "\n")]
  | .consume s n (.ok true) => [Bytes.ofText (windowLine s n ++ "\n")]
  | .drain (.error _) | .consume .. | .inactive | .upgradeServer _ | .upgradeClient | .react _ => []

/-- A codec of lines writes at most one line when it is called. -/
theorem LineCodec.linesOf_cases (call : CodecCall) :
    linesOf call = [] ∨ ∃ bytes, linesOf call = [bytes] := by
  unfold linesOf
  split <;> first | exact .inl rfl | exact .inr ⟨_, rfl⟩

/-- A codec of lines that is handed no promise writes its lines and hands none on. -/
theorem LineCodec.requests_of_isAnswer {c : LineCodec} {α : Type} {describe : α → CodecCall}
    {s : CodecStep LineCodec α} (h : Codec.IsAnswer c describe s) :
    s.requests = (linesOf (describe s.result)).map fun bytes => .write bytes .void := by
  cases h with
  | activate | upgradeServer | upgradeClient => rfl
  | drain =>
      simp only [Codec.drain, LineCodec.drain]
      split <;> rfl
  | consume s n =>
      simp only [Codec.consume, LineCodec.consume]
      split
      · rfl
      · split <;> rfl
  | ownReaction h => cases h

theorem LineCodec.isQuiet_of_isAnswer {c : LineCodec} {α : Type} {describe : α → CodecCall}
    {s : CodecStep LineCodec α} (h : Codec.IsAnswer c describe s) :
    ∀ r ∈ s.requests, r.IsQuiet := by
  intro r hr
  rw [requests_of_isAnswer h] at hr
  obtain ⟨bytes, -, rfl⟩ := List.mem_map.mp hr
  exact .write bytes

/-- What a codec of lines leaves at the channel after a frame are notifications. -/
theorem LineCodec.notify_of_mem_aftermath {c : LineCodec} {f : Outgoing} {r : ChannelRequest}
    (hr : r ∈ c.aftermath f) : ∃ e, r = .notify e := by
  cases f <;> simp only [LineCodec.aftermath] at hr
  case reset s code =>
    split at hr
    · exact ⟨_, List.mem_singleton.mp hr⟩
    · cases hr
  case goAway last code debug => exact ⟨_, List.mem_singleton.mp hr⟩
  all_goals cases hr

/-- A codec of lines only leaves notifications when it lets go of its streams. -/
theorem LineCodec.notify_of_mem_deactivate {c : LineCodec} {r : ChannelRequest}
    (hr : r ∈ (Codec.deactivate c).requests) : ∃ e, r = .notify e := by
  obtain ⟨s, -, rfl⟩ := List.mem_map.mp hr
  exact ⟨_, rfl⟩

theorem LineCodec.isQuiet_deactivate (c : LineCodec) :
    ∀ r ∈ (Codec.deactivate c).requests, r.IsQuiet := by
  intro r hr
  obtain ⟨e, rfl⟩ := notify_of_mem_deactivate hr
  exact .notify e

/-- A codec of lines asks for nothing when it decodes. -/
theorem LineCodec.requests_decode (c : LineCodec) (input : Bytes) :
    (Codec.decode c input).requests = [] :=
  rfl

/-- What has to be shown of a property of outlets over a codec of lines, where commands are
restricted to `good` ones and frames to `fine` ones. -/
structure LineLaw (good : Command → Prop) (fine : Outbound → Prop)
    (Q : List Promise → Outlet LineCodec → Prop) : Prop where
  hub : ∀ o : Outlet LineCodec, Hub.Law good fun ps h => Q ps { o with hub := h }
  fine_of_good : ∀ {c}, good c → fine (LineCodec.frameOf c)
  fine_of_void : ∀ {f : Outbound}, f.promise = .void → fine f
  aside : ∀ {ps o h}, Hub.Aside o.home o.hub h → Q ps o → Q ps { o with hub := h }
  codec : ∀ c {ps o}, Q ps o → Q ps { o with codec := c }
  good_of_waiting : ∀ {ps o}, Q ps o → ∀ c ∈ o.hub.takeInline.1, good c
  take : ∀ {ps o}, Q ps o →
    Q (o.hub.takeInline.1.map (·.promise) ++ ps) { o with hub := o.hub.takeInline.2 }
  enter : ∀ {ps o}, o.hub.scope = none → Q ps o → Q ps { o with hub := o.hub.enter o.home }
  leave : ∀ {ps o}, Q ps o →
    Q (o.hub.takeInline.1.map (·.promise) ++ ps)
      { o with hub := { o.hub.takeInline.2 with scope := none } }
  buffer : ∀ {f ps o}, fine f → o.channel.isActive = true → Q (f.promise :: ps) o →
    Q ps { o with
      channel := { o.channel with pending := o.channel.pending ++ [f] }
      hub := o.hub.record o.home (.accepted f) }
  flush : ∀ {ps o}, Q ps o → Q ps o.flush
  requestClose : ∀ {ps o}, Q ps o → Q ps { o with channel := o.channel.requestClose }
  leaveWord : ∀ faults notifications {ps o}, Q ps o →
    Q ps { o with channel := { o.channel with faults, notifications } }
  markInactive : ∀ {ps o}, Q ps o →
    Q (o.channel.markInactive.2.map (·.promise) ++ ps)
      { o with channel := o.channel.markInactive.1 }

/-- What has to be shown of a property that has nothing to do with promises and scopes. -/
structure PlainLaw (p : Outlet LineCodec → Prop) : Prop extends Outlet.Plain p where
  scope : ∀ s {o}, p o → p { o with hub := { o.hub with scope := s } }

theorem PlainLaw.line {p : Outlet LineCodec → Prop} (L : PlainLaw p) :
    LineLaw (fun _ => True) (fun _ => True) (Regardless p) where
  hub := L.hub
  fine_of_good _ := trivial
  fine_of_void _ := trivial
  aside := L.aside
  codec c _ _ hp := L.codec c hp
  good_of_waiting _ _ _ := trivial
  take {ps o} hp := by
    obtain ⟨s, hs⟩ := o.hub.takeInline_eq
    rw [hs]
    exact L.scope s hp
  enter {ps o} _ hp := by
    obtain ⟨s, hs⟩ := o.hub.enter_eq o.home
    rw [hs]
    exact L.scope s hp
  leave {ps o} hp := by
    obtain ⟨s, hs⟩ := o.hub.takeInline_eq
    rw [hs]
    exact L.scope none hp
  buffer _ := L.buffer _
  flush := L.flush
  requestClose := L.requestClose
  leaveWord faults notifications _ _ hp := L.leaveWord faults notifications hp
  markInactive hp := L.markInactive hp

namespace LineLaw

variable {good : Command → Prop} {fine : Outbound → Prop}
  {Q : List Promise → Outlet LineCodec → Prop}

theorem accept (L : LineLaw good fine Q) {f : Outbound} {ps : List Promise}
    {o : Outlet LineCodec} (hf : fine f) (hQ : Q (f.promise :: ps) o) : Q ps (o.accept f) := by
  unfold Outlet.accept
  cases hactive : o.channel.isActive with
  | true =>
      simp only [Channel.write_of_active hactive, if_true]
      exact L.aside (.meter _) (L.buffer hf hactive hQ)
  | false =>
      simp only [Channel.write_of_inactive hactive]
      exact (L.hub o).abandon hQ

theorem close (L : LineLaw good fine Q) {ps : List Promise} {o : Outlet LineCodec}
    (hQ : Q ps o) : Q ps o.close := by
  unfold Outlet.close
  simp only
  split
  · exact L.requestClose hQ
  · exact L.requestClose (L.aside (.notice _) hQ)

theorem carryOut_of_isQuiet (L : LineLaw good fine Q) {rs : List ChannelRequest}
    (hrs : ∀ r ∈ rs, r.IsQuiet) {ps : List Promise} {o : Outlet LineCodec} (hQ : Q ps o) :
    Q ps (rs.foldl Outlet.carryOut o) := by
  refine List.foldlRecOn rs _ hQ ?_
  intro o hQ r hr
  cases hrs r hr with
  | write bytes => exact L.accept (L.fine_of_void rfl) ((L.hub o).void hQ)
  | notify e => exact L.leaveWord o.channel.faults _ hQ

theorem outlet (L : LineLaw good fine Q) : Outlet.Law good Q where
  hub := L.hub
  good_of_waiting := L.good_of_waiting
  take := L.take
  encode {c ps o} hc hQ := by
    have hrest : ∀ r ∈ o.codec.aftermath c.outgoing, r.IsQuiet := by
      intro r hr
      obtain ⟨e, rfl⟩ := LineCodec.notify_of_mem_aftermath hr
      exact .notify e
    have hcalled := L.codec { o.codec with openStreams := o.codec.openAfter c.outgoing }
      (L.aside (.record (e := .codec (.encode c.outgoing)) rfl) hQ)
    exact L.carryOut_of_isQuiet hrest (L.accept (L.fine_of_good hc) hcalled)
  call {_} describe s _ o hs hQ :=
    L.carryOut_of_isQuiet (LineCodec.isQuiet_of_isAnswer hs)
      (L.codec s.codec (L.aside (.record (e := .codec (describe s.result)) rfl) hQ))
  refer e _ _ hQ := L.aside (.refer e) hQ
  flush := L.flush
  close := L.close
  raise e _ o hQ :=
    L.leaveWord (o.channel.faults ++ [BridgeError.protocol e]) o.channel.notifications hQ

/-- Two laws are one. -/
theorem and {Q' : List Promise → Outlet LineCodec → Prop} (L : LineLaw good fine Q)
    (L' : LineLaw (fun _ => True) (fun _ => True) Q') :
    LineLaw good fine fun ps o => Q ps o ∧ Q' ps o where
  hub o := (L.hub o).and (L'.hub o)
  fine_of_good := L.fine_of_good
  fine_of_void := L.fine_of_void
  aside ha hQ := ⟨L.aside ha hQ.1, L'.aside ha hQ.2⟩
  codec c _ _ hQ := ⟨L.codec c hQ.1, L'.codec c hQ.2⟩
  good_of_waiting hQ := L.good_of_waiting hQ.1
  take hQ := ⟨L.take hQ.1, L'.take hQ.2⟩
  enter hscope hQ := ⟨L.enter hscope hQ.1, L'.enter hscope hQ.2⟩
  leave hQ := ⟨L.leave hQ.1, L'.leave hQ.2⟩
  buffer hf hactive hQ := ⟨L.buffer hf hactive hQ.1, L'.buffer trivial hactive hQ.2⟩
  flush hQ := ⟨L.flush hQ.1, L'.flush hQ.2⟩
  requestClose hQ := ⟨L.requestClose hQ.1, L'.requestClose hQ.2⟩
  leaveWord faults notifications _ _ hQ :=
    ⟨L.leaveWord faults notifications hQ.1, L'.leaveWord faults notifications hQ.2⟩
  markInactive hQ := ⟨L.markInactive hQ.1, L'.markInactive hQ.2⟩

variable {σ δ : Type}

/-- What is shown of outlets over a codec of lines is a law of turns. -/
theorem turn (L : LineLaw good fine Q) :
    Turn.WholeLaw good fun ps (t : Turn LineCodec σ δ) => Q ps t.outlet where
  outlet _ := L.outlet
  record he hQ := L.aside (.record (Entry.isAside_of_isReport he)) hQ
  notice n _ _ hQ := L.aside (.notice n) hQ
  meter f _ _ hQ := L.aside (.meter f) hQ
  arrive e _ _ hQ := L.aside (.arrive e) hQ
  advance _ hQ := hQ
  session _ _ _ hQ := hQ
  blueprint hQ := hQ
  upgrade hQ := hQ
  channel faults notifications _ _ hQ := L.leaveWord faults notifications hQ
  decoded input _ t hQ := by
    rw [LineCodec.requests_decode]
    exact L.codec (o := t.outlet) (Codec.decode t.bridge.codec input).codec hQ
  enterScope hscope hQ := L.enter hscope hQ
  leaveScope hQ := L.leave hQ
  letGo {_ t} hQ := L.carryOut_of_isQuiet (LineCodec.isQuiet_deactivate t.bridge.codec)
    (L.codec (Codec.deactivate t.bridge.codec).codec
      (L.aside (.record (e := .codec .inactive) rfl) hQ))
  markInactive hQ := L.markInactive hQ
  closed _ hQ := hQ

end LineLaw

end FrameBridge
