import FrameBridge.Proofs.Delivery.Rest

/-!
# Bridges that close

What is known of a bridge once its loop leaves it: which frames were handed over, and that the
journal had come to some point before the end was reported.  Nothing that handles and callbacks
still do changes this.
-/

namespace FrameBridge

namespace Hub

/-- The laws of hubs lead from one hub to another. -/
def Leads (ps qs : List Promise) (h h' : Hub) : Prop :=
  ∀ {good H}, Law good H → H ps h → H qs h'

end Hub

namespace Turn

variable {σ δ : Type}

/-- A bridge that its loop leaves, with the promises `ps` still under way, has handed over the
frames `sent`; the journal was `older` at some time before the end was reported.  If the end is
reported at all it is right after that time, and all that was flushed by then was handed over. -/
structure Closes (sent : List Outbound) (older : List Record) (ps : List Promise)
    (t : Turn LineCodec σ δ) : Prop where
  outside : t.hub.scope = none
  encoded : IsEncoded t.bridge.id t.hub.journal
  account : t.outlet.IsSound [] ps ∧ t.outlet.Covers sent
  grown : older <:+ t.hub.journal
  noEnd : HasNoEnd older t.bridge.id
  flushed : sent <+: flushedFrames older t.bridge.id
  parting : ((⟨t.bridge.id, .codec .inactive⟩ :: older : List Record) <:+ t.hub.journal ∧
    flushedFrames older t.bridge.id = sent) ∨ HasNoEnd t.hub.journal t.bridge.id

theorem Rests.closes {sent : List Outbound} {ps : List Promise} {t : Turn LineCodec σ δ}
    (h : t.Rests sent ps) : t.Closes sent t.hub.journal ps where
  outside := h.outside
  encoded := h.encoded
  account := h.account
  grown := List.suffix_rfl
  noEnd := h.up.2
  flushed := by
    rw [h.flushedFrames]
    exact List.prefix_append _ _
  parting := .inr h.up.2

namespace Closes

variable {sent : List Outbound} {older : List Record} {ps qs : List Promise}
  {t : Turn LineCodec σ δ}

theorem lead (h : t.Closes sent older ps) {hub : Hub} (hlead : Hub.Leads ps qs t.hub hub) :
    Closes sent older qs { t with hub } where
  outside := hlead Hub.law_scope_none (.of ps h.outside)
  encoded := hlead (Hub.law_isEncoded t.bridge.id) (.of ps h.encoded)
  account := hlead ((Outlet.law_covers sent).hub t.outlet) h.account
  grown := hlead (Hub.law_suffix older) (.of ps h.grown)
  noEnd := h.noEnd
  flushed := h.flushed
  parting := by
    rcases h.parting with ⟨htold, hflushed⟩ | hnone
    · exact .inl ⟨hlead (Hub.law_suffix _) (.of ps htold), hflushed⟩
    · exact .inr (hlead (Hub.law_hasNoEnd t.bridge.id) (.of ps hnone))

/-- The operator is told of something, or something is counted. -/
theorem aside (h : t.Closes sent older ps) {hub : Hub} (ha : Hub.Aside t.bridge.id t.hub hub)
    (hsame : hub.journal = t.hub.journal) : Closes sent older ps { t with hub } where
  outside := ha.scope.trans h.outside
  encoded := h.encoded.aside ha
  account := (Outlet.law_covers sent).aside (o := t.outlet) ha h.account
  grown := hsame ▸ h.grown
  noEnd := h.noEnd
  flushed := h.flushed
  parting := hsame ▸ h.parting

/-- The queue of the bridge goes away. -/
theorem closeMailbox (h : t.Closes sent older []) :
    Closes sent older [] { t with hub := t.hub.closeMailbox t.bridge.id } := by
  have hclosed : Closes sent older ((t.hub.mailbox t.bridge.id).queue.map (·.promise) ++ [])
      { t with hub := t.hub.emptied t.bridge.id } :=
    ⟨h.outside, h.encoded, ⟨h.account.1.closeQueue, h.account.2⟩, h.grown, h.noEnd, h.flushed,
      h.parting⟩
  exact hclosed.lead fun L hH => L.abandonCommands hH

/-- The frames that the bridge still holds are dropped. -/
theorem shut (h : t.Closes sent older []) : t.shut.Closes sent older [] := by
  have hshut : Closes sent older (t.bridge.channel.markInactive.2.map (·.promise) ++ [])
      { t with bridge := { t.bridge with channel := t.bridge.channel.markInactive.1 } } :=
    ⟨h.outside, h.encoded, (Outlet.law_covers sent).markInactive h.account, h.grown, h.noEnd,
      h.flushed, h.parting⟩
  exact hshut.lead fun L hH => L.resolveAll t.bridge.channel.failed_of_mem_markInactive hH

/-- A handle is used from outside of every loop. -/
theorem use (h : t.Closes sent older []) (target : LoopId) (now : StreamId) (a : HandleAction) :
    Closes sent older [] { t with hub := t.hub.use target true now a } :=
  h.lead fun L hH => L.use target true now a hH

theorem recode (h : t.Closes sent older []) (codec : LineCodec) :
    Closes sent older [] { t with bridge := { t.bridge with codec } } :=
  ⟨h.outside, h.encoded, (Outlet.law_covers sent).codec codec h.account, h.grown, h.noEnd,
    h.flushed, h.parting⟩

end Closes

/-- A bridge that was at rest closes when it is told of its end, however far it gets. -/
theorem Rests.deactivate [Connection σ] [Decoder δ] {sent : List Outbound}
    {t : Turn LineCodec σ δ} (h : t.Rests sent []) (hempty : t.bridge.channel.flushed = [])
    (rounds : Nat) : (t.deactivate rounds).state.Closes sent t.hub.journal [] := by
  have haccount := (Outlet.law_covers sent).turn.deactivate rounds h.outside h.account
  have hhome : (t.deactivate rounds).state.bridge.id = t.bridge.id :=
    haccount.1.isTidy.1.trans h.account.1.isTidy.1.symm
  refine ⟨scope_enterBy rounds .deactivate h.outside, ?_, haccount, ?_, ?_, ?_, .inl ⟨?_, ?_⟩⟩
  · rw [hhome]
    exact (law_isEncoded t.bridge.id).deactivate rounds h.outside (.of [] h.encoded)
  · exact (law_suffix t.hub.journal).deactivate rounds h.outside (.of [] List.suffix_rfl)
  · rw [hhome]
    exact h.closes.noEnd
  · rw [hhome]
    exact h.closes.flushed
  · rw [hhome]
    exact journal_deactivate rounds h.outside h.state_ne
  · rw [hhome, h.flushedFrames, hempty, List.append_nil]

end Turn

end FrameBridge
