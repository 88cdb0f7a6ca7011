import FrameBridge.Bridge.Builder
import FrameBridge.Proofs.Entry.Change
import FrameBridge.Rehearsal.LineCodec
import FrameBridge.Rehearsal.Script
import FrameBridge.Rehearsal.ToyDecoder

/-!
# The stance of a bridge

The state of a bridge, its session, the blueprint and the channel say together how far the bridge
has come.  They are changed one after the other, so they may contradict each other in the middle of
a deed, and after a panic.

* `Bridge.Upright` is what holds always, and `Bridge.Later` what is never taken back.
* `Bridge.Coherent` is what holds besides whenever a deed has come to its end.
* `Builder.stance_of_proceeds` puts them together for a bridge whose entries have all returned.
-/

namespace FrameBridge

namespace Lifecycle

/-- A state that goes on is the next one, if that is later. -/
theorem advance_cases (now next : Lifecycle) :
    now.advance next = now ∨ now.rank < next.rank ∧ now.advance next = next := by
  unfold advance
  split
  · exact .inr ⟨‹_›, rfl⟩
  · exact .inl rfl

namespace Moves

variable {closing : Bool} {now next : Lifecycle}

/-- The state is that of a bridge about to close only where a close was asked for. -/
theorem requested (h : now.Moves closing next) (hnow : now = .closing → closing = true)
    (hnext : next = .closing) : closing = true := by
  cases h with
  | stay => exact hnow hnext
  | preface => cases hnext
  | close _ hclosing => exact hclosing

theorem eq_closed_iff (h : now.Moves closing next) : next = .closed ↔ now = .closed := by
  cases h with
  | stay => exact Iff.rfl
  | preface hnow =>
      subst hnow
      decide
  | close hearly _ =>
      refine ⟨nofun, ?_⟩
      rintro rfl
      exact absurd hearly (by decide)

/-- No such change leads to the state of a bridge that was told of the first settings. -/
theorem eq_settingsReceived (h : now.Moves closing next) (hnext : next = .settingsReceived) :
    now = .settingsReceived := by
  cases h with
  | stay => exact hnext
  | preface => cases hnext
  | close => cases hnext

end Moves

end Lifecycle

namespace Bridge

variable {κ σ δ : Type} {p : Prop} {b b' b'' : Bridge κ σ δ}

theorem isEstablished_of_route (h : b'.route? = b.route?) : b'.isEstablished = b.isEstablished := by
  rw [isEstablished_eq, isEstablished_eq, h]

theorem isDecoding_of_route (h : b'.route? = b.route?) : b'.isDecoding = b.isDecoding := by
  rw [isDecoding_eq, isDecoding_eq, h]

/-! ### What is never taken back -/

/-- The second bridge is the first one at some later time. -/
structure Later (b b' : Bridge κ σ δ) : Prop where
  established : b.isEstablished = true → b'.isEstablished = true
  rank : b.state.rank ≤ b'.state.rank
  closing : b.channel.closeRequested = true → b'.channel.closeRequested = true
  shut : b.channel.isOpen = false → b'.channel.isOpen = false
  decoders : b'.decoders = b.decoders

theorem Later.refl (b : Bridge κ σ δ) : b.Later b :=
  ⟨fun h => h, Nat.le_refl _, fun h => h, fun h => h, rfl⟩

theorem Later.trans (h : b.Later b') (h' : b'.Later b'') : b.Later b'' where
  established hb := h'.established (h.established hb)
  rank := Nat.le_trans h.rank h'.rank
  closing hb := h'.closing (h.closing hb)
  shut hb := h'.shut (h.shut hb)
  decoders := h'.decoders.trans h.decoders

/-- No change takes back that the connection exists, that a close was asked for, that the channel
is shut, or the state that was reached. -/
theorem Change.later (h : b.Change p b') : b.Later b' := by
  cases h with
  | goesOn h =>
      refine ⟨?_, h.state.rank_le, h.channel.closing, h.channel.isOpen.trans, h.decoders⟩
      exact (isEstablished_of_route h.route).trans
  | creates channel absent _ decoders state _ =>
      refine ⟨?_, ?_, channel.closing, channel.isOpen.trans, decoders⟩
      · intro hestablished
        rw [isEstablished, absent] at hestablished
        cases hestablished
      · rcases state with hsame | hnext
        · exact Nat.le_of_eq (congrArg _ hsame.symm)
        · rw [hnext]
          exact b.state.rank_le_advance _
  | ends shut closing route _ decoders state _ =>
      refine ⟨?_, ?_, closing, fun _ => shut.1, decoders⟩
      · exact (isEstablished_of_route route).trans
      · rcases state with hmoves | hclosed
        · exact hmoves.rank_le
        · rw [hclosed]
          cases b.state <;> decide

/-! ### What holds always -/

/-- The state claims nothing that the channel does not bear out. -/
structure Upright (b : Bridge κ σ δ) : Prop where
  closing : b.state = .closing → b.channel.closeRequested = true
  closed : b.state = .closed → b.channel.isOpen = false
  emptied : b.channel.isOpen = false → b.channel.pending = [] ∧ b.channel.flushed = []

/-- Whatever changes, finished or not, the state claims nothing that the channel does not bear
out. -/
theorem Upright.change (h : b.Upright) (hc : b.Change p b') : b'.Upright := by
  cases hc with
  | goesOn hb =>
      have hisOpen := hb.channel.isOpen
      refine ⟨hb.state.requested fun hb' => hb.channel.closing (h.closing hb'), ?_, ?_⟩
      · intro hclosed
        exact hisOpen.trans (h.closed (hb.state.eq_closed_iff.mp hclosed))
      · intro hshut
        have hshut := hisOpen.symm.trans hshut
        exact hb.channel.emptied hshut (h.emptied hshut)
  | creates channel _ _ _ state _ =>
      -- The state stays as it is, or becomes one of which nothing is claimed.
      have hstate : b'.state = b.state ∨ b'.state = .settingsReceived := by
        rcases state with hsame | hnext
        · exact .inl hsame
        · rcases b.state.advance_cases .settingsReceived with hsame | ⟨-, hsettings⟩
          · exact .inl (hnext.trans hsame)
          · exact .inr (hnext.trans hsettings)
      have hkept {l : Lifecycle} (hl : l ≠ .settingsReceived) (hb : b'.state = l) :
          b.state = l := by
        rcases hstate with hsame | hsettings
        · exact hsame.symm.trans hb
        · exact absurd (hb.symm.trans hsettings) hl
      refine ⟨fun hclosing => ?_, fun hclosed => ?_, fun hshut => ?_⟩
      · exact channel.closing (h.closing (hkept (by decide) hclosing))
      · exact channel.isOpen.trans (h.closed (hkept (by decide) hclosed))
      · have hshut := channel.isOpen.symm.trans hshut
        exact channel.emptied hshut (h.emptied hshut)
  | ends shut closing _ _ _ state _ =>
      refine ⟨fun hclosing => ?_, fun _ => shut.1, fun _ => shut.2⟩
      rcases state with hmoves | hclosed
      · exact hmoves.requested (fun hb => closing (h.closing hb)) hclosing
      · cases hclosed.symm.trans hclosing

/-- Taking frames off a channel leaves it as empty as it was. -/
theorem Upright.takeFlushed (h : b.Upright) :
    Upright { b with channel := b.channel.takeFlushed.2 } :=
  ⟨h.closing, h.closed, fun hshut => ⟨(h.emptied hshut).1, rfl⟩⟩

/-! ### What holds when a deed has come to its end -/

/-- State, session, blueprint and channel agree with each other. -/
structure Coherent (b : Bridge κ σ δ) : Prop extends Upright b where
  held : b.blueprint.isSome = !b.isEstablished
  known : b.isEstablished = true → Lifecycle.settingsReceived.rank ≤ b.state.rank
  created : b.state = .settingsReceived → b.isEstablished = true
  shut : b.channel.isOpen = false → b.state = .closed
  decoding : b.isEstablished = true → b.isDecoding = b.decoders.isSome

/-- A change that is finished leaves state, session, blueprint and channel in agreement. -/
theorem Coherent.change (h : b.Coherent) (hp : p) (hc : b.Change p b') : b'.Coherent := by
  have hupright := h.toUpright.change hc
  have hlater := hc.later
  cases hc with
  | goesOn hb =>
      have hestablished := isEstablished_of_route hb.route
      have hdecoding := isDecoding_of_route hb.route
      refine { hupright with held := ?_, known := ?_, created := ?_, shut := ?_, decoding := ?_ }
      · rw [hb.blueprint, hestablished]
        exact h.held
      · intro hb'
        exact Nat.le_trans (h.known (hestablished ▸ hb')) hlater.rank
      · intro hsettings
        exact hlater.established (h.created (hb.state.eq_settingsReceived hsettings))
      · intro hshut
        exact hb.state.eq_closed_iff.mpr (h.shut (hb.channel.isOpen.symm.trans hshut))
      · rw [hestablished, hdecoding, hb.decoders]
        exact h.decoding
  | creates channel _ _ decoders _ created =>
      obtain ⟨hstate, hblueprint, hroute⟩ := created hp
      have hestablished : b'.isEstablished = true := by
        rw [isEstablished_eq, hroute, Option.isSome_some]
      refine { hupright with held := ?_, known := ?_, created := ?_, shut := ?_, decoding := ?_ }
      · rw [hblueprint, hestablished]
        rfl
      · intro _
        rw [hstate]
        cases b.state <;> decide
      · exact fun _ => hestablished
      · intro hshut
        rw [hstate, h.shut (channel.isOpen.symm.trans hshut)]
        exact Lifecycle.advance_closed _
      · intro _
        rw [isDecoding_eq, hroute, decoders]
        simp
  | ends _ _ route blueprint decoders _ ended =>
      have hclosed := ended hp
      have hestablished := isEstablished_of_route route
      have hdecoding := isDecoding_of_route route
      refine { hupright with held := ?_, known := ?_, created := ?_, shut := ?_, decoding := ?_ }
      · rw [blueprint, hestablished]
        exact h.held
      · intro _
        rw [hclosed]
        decide
      · intro hsettings
        cases hclosed.symm.trans hsettings
      · exact fun _ => hclosed
      · rw [hestablished, hdecoding, decoders]
        exact h.decoding

end Bridge

namespace Turn

variable {κ σ δ : Type} [Codec κ] [Connection σ] [Decoder δ] {t t' : Turn κ σ δ}

/-- Whatever happens to a bridge, panics included, it is the same bridge at a later time. -/
theorem Step.later (h : Step t t') : t.bridge.Later t'.bridge := by
  cases h with
  | enter | leave => exact .refl _
  | deed hdeed => exact hdeed.change.later
  | between hb =>
      cases hb with
      | elsewhere => exact .refl _
      | take => exact ⟨fun h => h, Nat.le_refl _, fun h => h, fun h => h, rfl⟩
      | recode codec => exact ⟨fun h => h, Nat.le_refl _, fun h => h, fun h => h, rfl⟩

theorem Course.later (h : Course t t') : t.bridge.Later t'.bridge := by
  induction h with
  | refl => exact .refl _
  | tail _ hstep ih => exact ih.trans hstep.later

theorem Step.upright (h : Step t t') (ht : t.bridge.Upright) : t'.bridge.Upright := by
  cases h with
  | enter | leave => exact ht
  | deed hdeed => exact ht.change hdeed.change
  | between hb =>
      cases hb with
      | elsewhere => exact ht
      | take => exact ht.takeFlushed
      | recode codec => exact ⟨ht.closing, ht.closed, ht.emptied⟩

theorem Course.upright (h : Course t t') (ht : t.bridge.Upright) : t'.bridge.Upright := by
  induction h with
  | refl => exact ht
  | tail _ hstep ih => exact hstep.upright ih

theorem Proceeds.coherent (h : Proceeds t t') (ht : t.bridge.Coherent) : t'.bridge.Coherent :=
  h.keeps (P := Bridge.Coherent) (fun hdeed hend ht => ht.change hend hdeed.change)
    (fun ht => { ht.toUpright.takeFlushed with
      held := ht.held, known := ht.known, created := ht.created, shut := ht.shut
      decoding := ht.decoding })
    (fun _ _ ht => ⟨⟨ht.closing, ht.closed, ht.emptied⟩, ht.held, ht.known, ht.created, ht.shut,
      ht.decoding⟩) ht

theorem Chain.coherent (h : Chain t (.done t')) (ht : t.bridge.Coherent) : t'.bridge.Coherent :=
  h.keeps_of_done (P := fun t => t.bridge.Coherent)
    (fun hdeed hend ht => ht.change hend hdeed.change) rfl ht

/-- Settings that are routed to a bridge without a session create it, if the blueprint is there. -/
theorem route_settings {blueprint : σ} (hup : t.bridge.state ≠ .closed)
    (habsent : t.bridge.session = none) (hheld : t.bridge.blueprint = some blueprint)
    (s : Settings) :
    t.route (.frame (.settings s)) =
      (({ t with hub := t.hub.arrive t.bridge.id (.frame (.settings s)) } : Turn κ σ δ).meter
        Metrics.countInbound).establish blueprint s := by
  rw [route, if_neg hup]
  simp only [onFrame, meter, habsent, onEarlyFrame, hheld]

end Turn

namespace Builder

variable {κ σ δ : Type}

/-- A bridge that was just built has neither a session nor a state to live up to. -/
theorem coherent_build (b : Builder κ σ δ) (hub : Hub) : (b.build hub).bridge.Coherent where
  closing := nofun
  closed := nofun
  emptied := nofun
  held := rfl
  known := nofun
  created := nofun
  shut := nofun
  decoding := nofun

variable [Codec κ] [Connection σ] [Decoder δ]

/-- As long as every entry of a bridge returns, the following holds whenever one has returned.

* The blueprint is held as long as the connection is absent.
* The connection is present from the state `settingsReceived` on, and it is present in that state.
* In the state `closing` a close was asked for; the state is `closed` just when the channel is shut.
* A connection that is present is behind a listener just when decoders were configured.
* A connection that is present stays present, the state never moves back, and once it is `closed`
  the channel is empty and stays empty, whatever happens.
* In the next entry, settings that meet an absent connection find the blueprint and create it. -/
theorem stance_of_proceeds (b : Builder κ σ δ) (hub : Hub) {t : Turn κ σ δ}
    (h : Turn.Proceeds (b.build hub) t) :
    (t.bridge.blueprint.isSome = true ↔ t.bridge.isEstablished = false) ∧
    (t.bridge.isEstablished = true → Lifecycle.settingsReceived.rank ≤ t.bridge.state.rank) ∧
    (t.bridge.state = .settingsReceived → t.bridge.isEstablished = true) ∧
    (t.bridge.state = .closing → t.bridge.channel.closeRequested = true) ∧
    (t.bridge.state = .closed ↔ t.bridge.channel.isOpen = false) ∧
    (t.bridge.isEstablished = true → (t.bridge.isDecoding = true ↔ b.decoders.isSome = true)) ∧
    (∀ t', Turn.Course t t' →
      (t.bridge.isEstablished = true → t'.bridge.isEstablished = true) ∧
      t.bridge.state.rank ≤ t'.bridge.state.rank ∧
      (t.bridge.state = .closed →
        t'.bridge.channel.pending = [] ∧ t'.bridge.channel.flushed = [])) ∧
    ∀ t', Turn.Chain t.entered (.done t') → t'.bridge.isEstablished = false →
      t'.bridge.state ≠ .closed →
      ∃ blueprint, t'.bridge.blueprint = some blueprint ∧
        ∀ s, t'.route (.frame (.settings s)) =
          (({ t' with hub := t'.hub.arrive t'.bridge.id (.frame (.settings s)) } :
            Turn κ σ δ).meter Metrics.countInbound).establish blueprint s := by
  have hcoherent := h.coherent (b.coherent_build hub)
  have hdecoders : t.bridge.decoders = b.decoders := h.course.later.decoders
  refine ⟨?_, hcoherent.known, hcoherent.created, hcoherent.closing,
    ⟨hcoherent.closed, hcoherent.shut⟩, ?_, ?_, ?_⟩
  · rw [hcoherent.held, Bool.not_eq_true']
  · intro hestablished
    rw [hcoherent.decoding hestablished, hdecoders]
  · intro t' hcourse
    have hlater := hcourse.later
    refine ⟨hlater.established, hlater.rank, fun hclosed => ?_⟩
    exact (hcourse.upright hcoherent.toUpright).emptied (hlater.shut (hcoherent.closed hclosed))
  · intro t' hchain habsent hup
    have hinside : t'.bridge.Coherent := hchain.coherent hcoherent
    have hheld : t'.bridge.blueprint.isSome = true := by rw [hinside.held, habsent, Bool.not_false]
    obtain ⟨blueprint, hblueprint⟩ := Option.isSome_iff_exists.mp hheld
    have hnone : t'.bridge.session = none := by simpa [Bridge.isEstablished] using habsent
    exact ⟨blueprint, hblueprint, fun s => Turn.route_settings hup hnone hblueprint s⟩

end Builder

/-- A bridge that decodes bodies. -/
def unpacking : Builder LineCodec Script ToyDecoder where
  codec := {}
  blueprint := {}
  decoders := some ToyDecoder.ofTestCoding

/-- A life with settings on either side of a request to close, and events after its end. -/
def wholeLife : List Move :=
  [.enter (.event (.frame (.settings .empty))), .enter .activate, .enter .close,
    .enter (.event (.frame (.settings .empty))), .enter .deactivate,
    .enter (.event (.frame (.settings .empty)))]

theorem stance_of_proceeds_unpacking :
    ((unpacking.build {}).moves 9 wholeLife).stop = none ∧
      ((unpacking.build {}).moves 9 wholeLife).state.bridge.state = .closed ∧
      ((unpacking.build {}).moves 9 wholeLife).state.bridge.channel.isOpen = false ∧
      ((unpacking.build {}).moves 9 wholeLife).state.bridge.isEstablished = true ∧
      ((unpacking.build {}).moves 9 wholeLife).state.bridge.isDecoding = true := by
  have hreturned : ((unpacking.build {}).moves 9 wholeLife).stop = none := by decide +kernel
  have hclosed : ((unpacking.build {}).moves 9 wholeLife).state.bridge.state = .closed := by
    decide +kernel
  have hestablished : ((unpacking.build {}).moves 9 wholeLife).state.bridge.isEstablished = true := by
    decide +kernel
  obtain ⟨-, -, -, -, hshut, hdecoding, -, -⟩ :=
    unpacking.stance_of_proceeds {} (Turn.proceeds_moves 9 wholeLife hreturned)
  exact ⟨hreturned, hclosed, hshut.mp hclosed, hestablished, (hdecoding hestablished).mpr rfl⟩

end FrameBridge
