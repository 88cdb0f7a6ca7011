import FrameBridge.Proofs.Listening.Share
import FrameBridge.Rehearsal.ToyDecoder
import Mathlib.Data.List.Induction
import Mathlib.Data.List.Infix

/-!
# Which streams a listener remembers

A stream is taken up with headers that do not end it, and is dropped when it is over or when its
decoder fails.  In between nothing that is heard, of this stream or of others, makes the listener
forget it, and at no other time is it remembered.

The only violation that a listener reports is the failure of a decoder, with the very frame on
which it failed.
-/

namespace FrameBridge

/-- Headers behind which more of their stream is to come. -/
def Heard.isOpening : Heard → Bool
  | .frame (.headers _ _ _ _ ends) => !ends
  | _ => false

namespace Coding

variable {δ : Type} [Decoder δ]

/-- A decoder fails on what is heard of its body: on a piece of it, or on headers that end it. -/
inductive FailsOn (d : δ) : Heard → DecodeError → Prop
  | piece {s x pad ends window cause} (hfeed : Decoder.feedLast d x ends = .error cause) :
      FailsOn d (.frame (.data s x pad ends window)) cause
  | tail {s hs prio pad cause} (hfinish : Decoder.finish d = .error cause) :
      FailsOn d (.frame (.headers s hs prio pad true)) cause

/-- No decoder fails on headers that leave the stream open. -/
theorem FailsOn.not_isOpening {d : δ} {h : Heard} {cause : DecodeError} (hfails : FailsOn d h cause) :
    h.isOpening = false := by
  cases hfails <;> rfl

variable (source : DecoderSource δ)

/-- The failure of a decoder is reported, and then nothing is known of the stream. -/
theorem hear_of_failsOn {h : Heard} {s : StreamId} {encoding : String} {d : δ}
    {cause : DecodeError} (hs : h.stream? = some s) (hfails : FailsOn d h cause) :
    hear source (some (.decoding encoding d)) h =
      ({ error := some (Listener.failure s encoding cause) }, none) := by
  cases hfails with
  | piece hfeed =>
      obtain rfl := Option.some.inj hs
      simp only [hear, hfeed]
  | tail hfinish =>
      obtain rfl := Option.some.inj hs
      simp only [hear, hfinish]

/-- A violation is reported where a decoder fails. -/
theorem failsOn_of_hear_error {known : Option (Coding δ)} {h : Heard} {e : ProtocolError}
    (he : (hear source known h).1.error = some e) :
    ∃ s encoding d cause, h.stream? = some s ∧ known = some (.decoding encoding d) ∧
      FailsOn d h cause := by
  unfold hear at he
  split at he
  case h_4 s h prio pad encoding d =>
      cases hfinish : Decoder.finish d with
      | ok tail => simp [hfinish] at he
      | error cause => exact ⟨s, encoding, d, cause, rfl, rfl, .tail hfinish⟩
  case h_6 s x pad ends window encoding d =>
      cases hfeed : Decoder.feedLast d x ends with
      | ok r => simp [hfeed] at he
      | error cause => exact ⟨s, encoding, d, cause, rfl, rfl, .piece hfeed⟩
  all_goals cases he

/-- As long as a stream goes on and no decoder fails, it stays known if it was, and becomes known
with headers. -/
theorem isSome_hear_of_sound {known : Option (Coding δ)} {h : Heard} (hlast : h.isLast = false)
    (hsound : (hear source known h).1.error = none) :
    (hear source known h).2.isSome ↔ known.isSome ∨ h.isOpening := by
  unfold hear at hsound ⊢
  split <;> try split
  all_goals simp_all [Heard.isLast, Heard.isOpening, Option.isSome_iff_ne_none]

/-- A stream is known after something was heard of it if it was known before or is taken up with
this, and this neither is the last of it nor is anything on which its decoder fails. -/
theorem isSome_hear_iff {known : Option (Coding δ)} {h : Heard} {s : StreamId}
    (hs : h.stream? = some s) :
    (hear source known h).2.isSome ↔
      (known.isSome ∨ h.isOpening) ∧
        ¬(h.isLast ∨ ∃ encoding d cause, known = some (.decoding encoding d) ∧
          FailsOn d h cause) := by
  cases hlast : h.isLast with
  | true => simp [hear_of_last source known hlast]
  | false =>
      by_cases hfails : ∃ encoding d cause, known = some (.decoding encoding d) ∧ FailsOn d h cause
      · obtain ⟨encoding, d, cause, rfl, hfails⟩ := hfails
        simp only [hear_of_failsOn source hs hfails, Option.isSome_none, Bool.false_eq_true,
          false_iff, not_and, not_not]
        exact fun _ => .inr ⟨encoding, d, cause, rfl, hfails⟩
      · have hsound : (hear source known h).1.error = none := by
          refine Option.eq_none_iff_forall_ne_some.mpr fun e he => hfails ?_
          obtain ⟨s, encoding, d, cause, -, hknown, hcause⟩ := failsOn_of_hear_error source he
          exact ⟨encoding, d, cause, hknown, hcause⟩
        simp only [isSome_hear_of_sound source hlast hsound, hfails, Bool.false_eq_true, or_self,
          not_false_eq_true, and_true]

end Coding

namespace Listener

variable {δ : Type} [Decoder δ]

/-- The stream is on record. -/
def Remembers (l : Listener δ) (s : StreamId) : Prop := l.streams.contains s = true

omit [Decoder δ] in
theorem remembers_iff (l : Listener δ) (s : StreamId) : l.Remembers s ↔ (l.coding? s).isSome :=
  .rfl

/-- The stream is taken up with what is heard. -/
def Opens (s : StreamId) (h : Heard) : Prop := h.stream? = some s ∧ h.isOpening

/-- The stream is over with what is heard, or its decoder fails on this. -/
def Drops (l : Listener δ) (s : StreamId) (h : Heard) : Prop :=
  h.stream? = some s ∧
    (h.isLast ∨ ∃ encoding d cause, l.coding? s = some (.decoding encoding d) ∧
      Coding.FailsOn d h cause)

theorem not_drops_of_opens (l : Listener δ) {s : StreamId} {h : Heard} (hopens : Opens s h) :
    ¬l.Drops s h := by
  rintro ⟨-, hlast | ⟨_, _, _, -, hfails⟩⟩
  · obtain ⟨hs, hopening⟩ := hopens
    revert hlast hopening
    unfold Heard.isLast Heard.isOpening
    split <;> simp
  · exact absurd hopens.2 (by simp [hfails.not_isOpening])

theorem after_append (l : Listener δ) (xs ys : List Heard) :
    l.after (xs ++ ys) = (l.after xs).after ys := List.foldl_append

/-- What one thing that is heard makes of the record. -/
theorem remembers_next_iff (l : Listener δ) (s : StreamId) (h : Heard) :
    (l.next h).Remembers s ↔ (l.Remembers s ∨ Opens s h) ∧ ¬l.Drops s h := by
  unfold Opens Drops
  rw [remembers_iff, remembers_iff]
  by_cases hs : h.stream? = some s
  · rw [coding?_next_of_about l hs, Coding.isSome_hear_iff l.source hs]
    simp only [hs, true_and]
  · rw [coding?_next_of_ne l hs]
    simp only [hs, false_and, or_false, not_false_eq_true, and_true]

/-- A stream stays on record while nothing drops it. -/
theorem remembers_after_of_kept {l : Listener δ} {s : StreamId} (heard : List Heard)
    (hl : l.Remembers s) (hkept : ∀ xs x, xs ++ [x] <+: heard → ¬(l.after xs).Drops s x) :
    (l.after heard).Remembers s := by
  induction heard generalizing l with
  | nil => exact hl
  | cons h heard ih =>
      refine ih ((l.remembers_next_iff s h).mpr ⟨.inl hl, ?_⟩) fun xs x hxs => ?_
      · exact hkept [] h (List.prefix_append [h] heard)
      · exact hkept (h :: xs) x ((List.prefix_cons_inj h).mpr hxs)

/-- A stream is on the record that a listener made if at some time it was taken up and was not
dropped since. -/
theorem remembers_after_iff (source : DecoderSource δ) (heard : List Heard) (s : StreamId) :
    ((ofSource source).after heard).Remembers s ↔
      ∃ before h since, heard = before ++ h :: since ∧
        ¬((ofSource source).after before).Remembers s ∧ Opens s h ∧
        ∀ xs x, xs ++ [x] <+: since →
          ¬((ofSource source).after (before ++ h :: xs)).Drops s x := by
  constructor
  · intro hmem
    -- From the end of the run: the last step took the stream up or kept it.
    induction heard using List.reverseRecOn with
    | nil => cases hmem
    | append_singleton heard x ih =>
        rw [after_append] at hmem
        obtain ⟨hwas, hkept⟩ := (remembers_next_iff _ s x).mp hmem
        by_cases hhad : ((ofSource source).after heard).Remembers s
        · obtain ⟨before, h, since, rfl, hnew, hopens, hsince⟩ := ih hhad
          refine ⟨before, h, since ++ [x], by simp, hnew, hopens, fun xs y hxs => ?_⟩
          rcases List.prefix_concat_iff.mp hxs with heq | hxs
          · obtain ⟨rfl, hy⟩ := List.append_inj' heq rfl
            obtain rfl := List.singleton_inj.mp hy
            exact hkept
          · exact hsince xs y hxs
        · refine ⟨heard, x, [], rfl, hhad, hwas.resolve_left hhad, fun xs y hxs => ?_⟩
          simp at hxs
  · rintro ⟨before, h, since, rfl, -, hopens, hsince⟩
    rw [List.append_cons, after_append, after_append]
    refine remembers_after_of_kept since ?_ fun xs x hxs => ?_
    · exact (remembers_next_iff _ s h).mpr ⟨.inr hopens, not_drops_of_opens _ hopens⟩
    · have hkept := hsince xs x hxs
      rwa [List.append_cons, after_append, after_append] at hkept

/-- What is not about a stream is no violation. -/
theorem isSome_stream?_of_error (l : Listener δ) {h : Heard} {e : ProtocolError}
    (he : (l.reply h).error = some e) : ∃ s, h.stream? = some s := by
  cases h with
  | closed s => exact ⟨s, rfl⟩
  | frame f =>
      cases f with
      | settings | settingsAck | ping | pingAck | goAway => cases he
      | data s | headers s | priority s | reset s | pushPromise s | windowUpdate s => exact ⟨s, rfl⟩
      | unknown _ s => exact ⟨s, rfl⟩

/-- A violation is the failure of the decoder of a stream on record, which takes the stream from
there.  Nothing is handed on then, and what is known of other streams stays. -/
theorem failsOn_of_error (l : Listener δ) {h : Heard} {e : ProtocolError}
    (he : (l.reply h).error = some e) :
    ∃ s encoding d cause, h.stream? = some s ∧ l.coding? s = some (.decoding encoding d) ∧
      Coding.FailsOn d h cause ∧ l.reply h = { error := some (failure s encoding cause) } ∧
      (l.next h).coding? s = none ∧ ∀ x, x ≠ s → (l.next h).coding? x = l.coding? x := by
  obtain ⟨s, hs⟩ := l.isSome_stream?_of_error he
  rw [l.reply_of_about hs] at he
  obtain ⟨x, encoding, d, cause, hx, hknown, hfails⟩ := Coding.failsOn_of_hear_error l.source he
  obtain rfl : s = x := Option.some.inj (hs.symm.trans hx)
  have hhear := l.hear_about hs
  rw [hknown, Coding.hear_of_failsOn l.source hs hfails] at hhear
  refine ⟨s, encoding, d, cause, hs, hknown, hfails, congrArg Prod.fst hhear,
    congrArg Prod.snd hhear, fun y hy => ?_⟩
  refine coding?_next_of_ne l fun hys => hy ?_
  exact Option.some.inj (hys.symm.trans hs)

/-- A listener has on record the streams that were taken up and not dropped since.  It answers
with a violation only where the decoder of such a stream fails on a frame: the stream is at fault,
nothing of the frame is handed on, the stream is off the record, and what is known of all others is
as before. -/
theorem remembers_streams_under_way (source : DecoderSource δ) (heard : List Heard) :
    let l := (ofSource source).after heard
    (∀ s, l.Remembers s ↔
      ∃ before h since, heard = before ++ h :: since ∧
        ¬((ofSource source).after before).Remembers s ∧ Opens s h ∧
        ∀ xs x, xs ++ [x] <+: since →
          ¬((ofSource source).after (before ++ h :: xs)).Drops s x) ∧
      ∀ f e, (l.process f).error = some e →
        ∃ s encoding d cause, (Heard.frame f).stream? = some s ∧
          l.coding? s = some (.decoding encoding d) ∧ Coding.FailsOn d (.frame f) cause ∧
          e = .stream s .protocolError
            (encoding ++ " body could not be decoded: " ++ cause.display) ∧
          (l.process f).frames = [] ∧ ¬(l.process f).listener.Remembers s ∧
          ∀ x, x ≠ s → (l.process f).listener.coding? x = l.coding? x := by
  intro l
  refine ⟨remembers_after_iff source heard, fun f e he => ?_⟩
  obtain ⟨s, encoding, d, cause, hs, hknown, hfails, hreply, hgone, hothers⟩ :=
    l.failsOn_of_error (h := .frame f) he
  refine ⟨s, encoding, d, cause, hs, hknown, hfails, ?_, congrArg Reply.frames hreply, ?_, hothers⟩
  · exact Option.some.inj (he.symm.trans (congrArg Reply.error hreply))
  · have hnone : (l.process f).listener.coding? s = none := hgone
    simp [remembers_iff, hnone]

/-- A body that cannot be decoded takes its stream from the record, and leaves another stream. -/
theorem remembers_streams_under_way_broken :
    let headers := Headers.empty.insert (Bytes.ofText contentEncoding) (Bytes.ofText "x-fail")
    let l := (ofSource ToyDecoder.ofTestCoding).after
      [.frame (.headers (.ofNat 1) headers none 0 false),
        .frame (.headers (.ofNat 3) headers none 0 false)]
    let r := l.process (.data (.ofNat 1) (Bytes.ofText "abc") 0 false 3)
    r.error.isSome ∧ r.frames = [] ∧ ¬r.listener.Remembers (.ofNat 1) ∧
      r.listener.Remembers (.ofNat 3) := by
  intro headers l r
  have herror : r.error = some (.stream (.ofNat 1) .protocolError
      "x-fail body could not be decoded: corrupt block") := by decide +kernel
  obtain ⟨s, encoding, d, cause, hs, -, -, -, hframes, hgone, hothers⟩ :=
    (remembers_streams_under_way ToyDecoder.ofTestCoding _).2 _ _ herror
  obtain rfl : StreamId.ofNat 1 = s := Option.some.inj hs
  refine ⟨by rw [herror]; rfl, hframes, hgone, ?_⟩
  have hthree : r.listener.coding? (.ofNat 3) = l.coding? (.ofNat 3) :=
    hothers (.ofNat 3) (by decide +kernel)
  rw [remembers_iff, hthree]
  decide +kernel

end Listener

end FrameBridge
