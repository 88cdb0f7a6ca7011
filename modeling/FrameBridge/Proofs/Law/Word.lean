import FrameBridge.Proofs.Law.Deed
import FrameBridge.Proofs.Law.Line

/-!
# Words of codecs

A codec leaves notifications at the channel, and which kinds of them there are is settled by the
codec alone: a bridge takes notifications away and adds none.

* `Codec.Leaves` says of a codec that all its notifications are of a kind.
* `Outlet.law_notes`, `Turn.eventRule_notes` and `Turn.Course.notes` say that then all notifications
  that wait at a channel are of that kind, whatever happens to the bridge.
* `Turn.WordRule.settle` is induction on the rounds of settling for a codec of which this is known.
* `LineCodec.leaves_word` names the two kinds of a codec of lines.
-/

namespace FrameBridge

/-- All notifications of a codec are of a kind. -/
structure Codec.Leaves (κ : Type) [Codec κ] (word : Event → Prop) : Prop where
  encode : ∀ {c : κ} {f p e}, .notify e ∈ (Codec.encode c f p).requests → word e
  answer : ∀ {c : κ} {α : Type} {describe : α → CodecCall} {s : CodecStep κ α},
    IsAnswer c describe s → ∀ {e}, .notify e ∈ s.requests → word e
  deactivate : ∀ {c : κ} {e}, .notify e ∈ (Codec.deactivate c).requests → word e
  decode : ∀ {c : κ} {input e}, .notify e ∈ (Codec.decode c input).requests → word e

theorem Codec.Leaves.mono {κ : Type} [Codec κ] {word word' : Event → Prop}
    (h : Codec.Leaves κ word) (hmono : ∀ e, word e → word' e) : Codec.Leaves κ word' where
  encode he := hmono _ (h.encode he)
  answer hs _ he := hmono _ (h.answer hs he)
  deactivate he := hmono _ (h.deactivate he)
  decode he := hmono _ (h.decode he)

/-- What a codec of lines leaves word of: streams that are over, and announced ends. -/
inductive Event.IsWord : Event → Prop
  | closed (s : StreamId) : IsWord (.stream .closed s)
  | goAway (g : GoAway) : IsWord (.goAway g)

theorem LineCodec.isWord_of_mem_aftermath {c : LineCodec} {f : Outgoing} {e : Event}
    (h : .notify e ∈ c.aftermath f) : e.IsWord := by
  cases f with
  | reset s code =>
      simp only [aftermath] at h
      split at h
      · cases List.mem_singleton.mp h
        exact .closed s
      · cases h
  | goAway last code debug =>
      cases List.mem_singleton.mp h
      exact .goAway _
  | headers | data | ping | settings | pushPromise | frame => cases h

theorem LineCodec.leaves_word : Codec.Leaves LineCodec Event.IsWord where
  encode {c f p e} h := by
    rcases List.mem_cons.mp h with hwrite | hafter
    · cases hwrite
    · exact isWord_of_mem_aftermath hafter
  answer := by
    intro c α describe s hs e h
    rw [requests_of_isAnswer hs] at h
    obtain ⟨bytes, -, hwrite⟩ := List.mem_map.mp h
    cases hwrite
  deactivate {c e} h := by
    obtain ⟨s, -, hclosed⟩ := List.mem_map.mp h
    cases hclosed
    exact .closed s
  decode h := by cases h

/-- An outlet whose law is about nothing that a bridge does aside is a rule for events. -/
theorem Outlet.Law.eventRule {κ σ δ : Type} [Codec κ] [Connection σ] {p : Outlet κ → Prop}
    (L : Outlet.Law (fun _ => True) (Regardless p))
    (haside : ∀ {o h}, Hub.Aside o.home o.hub h → p o → p { o with hub := h }) :
    Turn.EventRule (fun _ => True) fun t : Turn κ σ δ => p t.outlet where
  obeys {t} _ := t.bridge.obeys_all
  step hasWriter now a _ _ hp := L.step hasWriter now a (.of [] hp)
  record he hp := haside (.record (Entry.isAside_of_isReport he)) hp
  notice n _ hp := haside (.notice n) hp
  advance _ hp := hp
  session _ hp := hp
  blueprint hp := hp
  meter f _ hp := haside (.meter f) hp
  arrive e _ hp := haside (.arrive e) hp
  catchUp {t} hp := L.catchUp (o := t.outlet) (.of [] hp)
  react e t hp := L.react (o := t.outlet) e (.of [] hp)
  closing {t} hp := L.close (o := t.outlet) (.of [] hp)

namespace Outlet

variable {κ : Type} {word : Event → Prop} {o : Outlet κ}

/-- Every notification that waits at the channel is of a kind. -/
def Notes (word : Event → Prop) (o : Outlet κ) : Prop := ∀ e ∈ o.channel.notifications, word e

theorem notifications_accept (o : Outlet κ) (f : Outbound) :
    (o.accept f).channel.notifications = o.channel.notifications := by
  show (o.channel.write f).1.notifications = _
  unfold Channel.write
  split <;> rfl

theorem notes_carryOut {r : ChannelRequest} (hr : ∀ e, r = .notify e → word e)
    (h : o.Notes word) : (o.carryOut r).Notes word := by
  cases r with
  | write bytes p =>
      have hsame := o.notifications_accept ⟨bytes, p⟩
      intro e he
      exact h e (hsame ▸ he)
  | notify e =>
      intro e' he'
      rcases List.mem_append.mp he' with hold | hnew
      · exact h e' hold
      · obtain rfl := List.mem_singleton.mp hnew
        exact hr e' rfl
  | raise | flush | close => exact h

theorem notes_foldl_carryOut {rs : List ChannelRequest} (hrs : ∀ {e}, .notify e ∈ rs → word e)
    (h : o.Notes word) : (rs.foldl carryOut o).Notes word :=
  List.foldlRecOn rs _ h fun _ h _ hr => notes_carryOut (fun _ he => hrs (he ▸ hr)) h

variable [Codec κ]

/-- Nothing that is written leaves another notification than those of the codec. -/
theorem law_notes (hword : Codec.Leaves κ word) :
    Law (fun _ => True) (Regardless fun o : Outlet κ => o.Notes word) where
  hub o := Hub.law_of_constant (o.Notes word)
  good_of_waiting _ _ _ := trivial
  take h := h
  encode _ h := notes_foldl_carryOut hword.encode h
  call hs h := notes_foldl_carryOut (hword.answer hs) h
  refer _ _ _ h := h
  flush h := h
  close h := h
  raise _ _ _ h := h

end Outlet

namespace Turn

variable {κ σ δ : Type} [Codec κ] {word : Event → Prop} {t t' : Turn κ σ δ}

theorem notes_applyUpgrade (hword : Codec.Leaves κ word) (h : t.outlet.Notes word) :
    t.applyUpgrade.outlet.Notes word := by
  have L := Outlet.law_notes hword
  unfold applyUpgrade
  split
  · exact h
  · exact L.orRaise (.upgradeServer _) (.of [] h)
  · exact L.orRaise .upgradeClient (.of [] h)

variable [Connection σ]

/-- Events and errors are handled without another notification than those of the codec. -/
theorem eventRule_notes (hword : Codec.Leaves κ word) :
    EventRule (fun _ => True) fun t : Turn κ σ δ => t.outlet.Notes word :=
  (Outlet.law_notes hword).eventRule fun _ h => h

variable [Decoder δ]

/-- Whatever a bridge does while its loop runs, all notifications are those of the codec. -/
theorem Deed.notes (hword : Codec.Leaves κ word) {r : Run (Turn κ σ δ)} (hdeed : Deed t r)
    (h : t.outlet.Notes word) : r.state.outlet.Notes word := by
  have L := Outlet.law_notes hword
  have R : EventRule (fun _ => True) fun t : Turn κ σ δ => t.outlet.Notes word :=
    eventRule_notes hword
  cases hdeed with
  | program actions => exact R.program true .connection (fun _ _ => trivial) h
  | write c => exact L.write (o := t.outlet) trivial (.of [_] h)
  | catchUp => exact R.catchUp h
  | notice | flush => exact h
  | close => exact R.close h
  | preface => exact L.call (o := t.outlet) .activate (.of [] h)
  | upgrade => exact notes_applyUpgrade hword h
  | decode input => exact Outlet.notes_foldl_carryOut hword.decode h
  | takeFault => exact h
  | takeNotification htake =>
      intro e he
      exact h e (htake ▸ List.mem_cons_of_mem _ he)
  | onException e => exact R.onException e h
  | route e => exact R.route e h
  | letGo => exact Outlet.notes_foldl_carryOut hword.deactivate (R.catchUp h)
  | tearDown =>
      have hshut : t.shut.outlet.Notes word := h
      exact Run.holds_andThen (P := fun t : Turn κ σ δ => t.outlet.Notes word)
        (R.sayGoodbye hshut) fun _ h => h

theorem Step.notes (hword : Codec.Leaves κ word) (hstep : Step t t') (h : t.outlet.Notes word) :
    t'.outlet.Notes word := by
  cases hstep with
  | enter | leave => exact h
  | deed hdeed => exact hdeed.notes hword h
  | between hb => cases hb <;> exact h

/-- Whatever happens to a bridge, panics included, all notifications are those of its codec. -/
theorem Course.notes (hword : Codec.Leaves κ word) (hcourse : Course t t')
    (h : t.outlet.Notes word) : t'.outlet.Notes word := by
  induction hcourse with
  | refl => exact h
  | tail _ hstep ih => exact hstep.notes hword ih

/-- What has to be shown of a property of turns for it to be kept while everything is settled, if all
notifications are of a kind. -/
structure WordRule (word : Event → Prop) (P : Turn κ σ δ → Prop) : Prop where
  catchUp : ∀ {t}, P t → P t.catchUp
  onException : ∀ e {t}, P t → P (t.onException e).state
  route : ∀ {e t}, word e → P t → P (t.route e).state
  channel : ∀ faults notifications {t}, P t →
    P (t.onChannel ({ · with faults, notifications }))

theorem WordRule.settle {P : Turn κ σ δ → Prop} (R : WordRule word P)
    (hword : Codec.Leaves κ word) (rounds : Nat) (hnotes : t.outlet.Notes word) (hP : P t) :
    P (t.settle rounds).state := by
  have E : EventRule (fun _ => True) fun t : Turn κ σ δ => t.outlet.Notes word :=
    eventRule_notes hword
  induction rounds generalizing t with
  | zero =>
      unfold Turn.settle
      split
      · exact hP
      · exact hP
  | succ rounds ih =>
      unfold Turn.settle
      split
      · rename_i fault faults hfaults
        refine Run.holds_andThen_state ?_ (ih (E.onException fault ?_) ?_)
        · exact R.onException fault (R.channel faults t.bridge.channel.notifications hP)
        · exact hnotes
        · exact R.onException fault (R.channel faults t.bridge.channel.notifications hP)
      · split
        · exact ih (E.catchUp hnotes) (R.catchUp hP)
        · split
          · rename_i e notifications hnotifications
            have he : word e := hnotes e (hnotifications ▸ List.mem_cons_self)
            have htaken := R.channel t.bridge.channel.faults notifications hP
            refine Run.holds_andThen_state (R.route he htaken) (ih (E.route e ?_) (R.route he htaken))
            intro e' he'
            exact hnotes e' (hnotifications ▸ List.mem_cons_of_mem e he')
          · exact hP

end Turn

end FrameBridge
