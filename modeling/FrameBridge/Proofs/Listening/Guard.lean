import FrameBridge.Proofs.Listening.Apart
import FrameBridge.Rehearsal.ToyDecoder

/-!
# Bodies under guard

Once the coding of a body was taken out of its headers, the connection cannot tell coded octets
from the body itself, so whatever is then handed on as the body has to come out of the decoder.  A
guard watches a listener from outside, over what it hears and what it replies, and says for each
stream whether that is owed and by which decoder.

It is kept as long as the decoder lives.  A decoder that fails is spent, and from there on until
the stream is over every piece of the body goes to the connection as it came.
-/

namespace FrameBridge

/-- What a stream is owed. -/
inductive Guard (δ : Type) where
  /-- The headers still speak of the coding, if there is one. -/
  | free
  /-- The coding was taken out of the headers, and this is the decoder. -/
  | bound (decoder : δ)
  /-- The coding was taken out of the headers, and the decoder has failed. -/
  | spent
deriving DecidableEq, Repr, Inhabited

/-- What is handed on as body. -/
def Listener.Reply.bodies (r : Listener.Reply) : List Bytes :=
  r.frames.filterMap fun
    | .data _ x _ _ _ => some x
    | _ => none

namespace Guard

variable {δ : Type} [Decoder δ]

/-- What the decoder gives out for what is heard. -/
def output? (d : δ) : Heard → Option Bytes
  | .frame (.data _ x _ ends _) => (Decoder.feedLast d x ends).toOption.map (·.1)
  | .frame (.headers _ _ _ _ true) => (Decoder.finish d).toOption
  | _ => none

/-- Whether a body may be handed on in reply to what is heard. -/
def Allows : Guard δ → Heard → Bytes → Prop
  | free, _, _ => True
  | bound d, h, x => output? d h = some x
  | spent, _, _ => False

instance (g : Guard δ) (h : Heard) (x : Bytes) : Decidable (g.Allows h x) :=
  match g with
  | free => isTrue trivial
  | bound d => inferInstanceAs (Decidable (output? d h = some x))
  | spent => isFalse id

/-- What the stream is owed after something about it.  That a decoder was made for it, the reply
says. -/
def next (source : DecoderSource δ) (g : Guard δ) (h : Heard) (r : Listener.Reply) : Guard δ :=
  if h.isLast then free
  else if r.found then (r.asked.bind source).elim free bound
  else
    match g, h with
    | bound d, .frame (.data _ x _ _ _) =>
        match Decoder.feed d x with
        | .ok (_, d) => bound d
        | .error _ => spent
    | g, _ => g

/-- All that is heard of a stream with the replies to it, each with what the stream was owed by
then. -/
def watch (source : DecoderSource δ) (s : StreamId) :
    Guard δ → List (Heard × Listener.Reply) → List (Guard δ × Heard × Listener.Reply)
  | _, [] => []
  | g, (h, r) :: rest =>
      if h.isAbout s then (g, h, r) :: watch source s (g.next source h r) rest
      else watch source s g rest

/-- A guard goes with what a listener knows of a body: it is bound to the decoder that is there. -/
def Fits : Guard δ → Option (Coding δ) → Prop
  | bound d, known => ∃ encoding, known = some (.decoding encoding d)
  | free, known | spent, known => ∀ encoding d, known ≠ some (.decoding encoding d)

theorem next_of_last (source : DecoderSource δ) (g : Guard δ) {h : Heard} (r : Listener.Reply)
    (hlast : h.isLast) : g.next source h r = free := by
  unfold next
  rw [if_pos hlast]

/-- Only a piece of the body can use a decoder up, and only headers make one. -/
theorem next_of_rest (source : DecoderSource δ) (g : Guard δ) {h : Heard} {r : Listener.Reply}
    (hlast : h.isLast = false) (hfound : r.found = false)
    (hrest : h.isBody = false ∨ ∀ d, g ≠ bound d) : g.next source h r = g := by
  unfold next
  rw [if_neg (by simp [hlast]), if_neg (by simp [hfound])]
  split
  · rcases hrest with hbody | hfree
    · cases hbody
    · exact absurd rfl (hfree _)
  · rfl

theorem fits_next_headers (source : DecoderSource δ) {g : Guard δ} {known : Option (Coding δ)}
    (hfits : g.Fits known) (s : StreamId) (hs : Headers) (prio : Option Priority) (pad : UInt8) :
    (g.next source (.frame (.headers s hs prio pad false))
        (Coding.hear source known (.frame (.headers s hs prio pad false))).1).Fits
      (Coding.hear source known (.frame (.headers s hs prio pad false))).2 := by
  cases known with
  | some c =>
      rw [next_of_rest source g rfl (by cases c <;> rfl) (.inl rfl)]
      cases c <;> exact hfits
  | none =>
      obtain ⟨hcoding, hfound⟩ | ⟨encoding, d, hsource, hcoding, hasked, hfound⟩ :=
        Coding.choose_cases source hs
      · rw [next_of_rest source g rfl hfound (.inl rfl)]
        cases g with
        | bound d =>
            obtain ⟨_, hd⟩ := hfits
            cases hd
        | free | spent =>
            intro e d hd
            cases hcoding.symm.trans (Option.some.inj hd)
      · have hnext : g.next source (.frame (.headers s hs prio pad false))
            (Coding.hear source none (.frame (.headers s hs prio pad false))).1 = bound d := by
          simp [next, Heard.isLast, Coding.hear, hasked, hfound, hsource]
        rw [hnext]
        exact ⟨encoding, congrArg some hcoding⟩

theorem fits_next_data (source : DecoderSource δ) {g : Guard δ} {known : Option (Coding δ)}
    (hfits : g.Fits known) (s : StreamId) (x : Bytes) (pad : UInt8) (window : UInt32) :
    (g.next source (.frame (.data s x pad false window))
        (Coding.hear source known (.frame (.data s x pad false window))).1).Fits
      (Coding.hear source known (.frame (.data s x pad false window))).2 := by
  cases g with
  | bound d =>
      obtain ⟨encoding, rfl⟩ := hfits
      cases hfeed : Decoder.feed d x with
      | error e => simp [next, Heard.isLast, Coding.hear, Decoder.feedLast, hfeed, Fits]
      | ok r => simp [next, Heard.isLast, Coding.hear, Decoder.feedLast, hfeed, Fits]
  | free | spent =>
      rw [Coding.hear_data_raw source hfits, next_of_rest source _ rfl rfl (.inr (by simp))]
      exact hfits

/-- What the stream is owed next goes with what a listener knows next. -/
theorem fits_next (source : DecoderSource δ) {g : Guard δ} {known : Option (Coding δ)}
    (hfits : g.Fits known) (h : Heard) :
    (g.next source h (Coding.hear source known h).1).Fits (Coding.hear source known h).2 := by
  by_cases hlast : h.isLast
  · rw [next_of_last source g _ hlast, Coding.hear_of_last source known hlast]
    exact fun _ _ h => nomatch h
  cases h with
  | closed s => exact absurd rfl hlast
  | frame f =>
      cases f with
      | headers s hs prio pad ends =>
          obtain rfl : ends = false := Bool.not_eq_true _ ▸ hlast
          exact fits_next_headers source hfits s hs prio pad
      | data s x pad ends window =>
          obtain rfl : ends = false := Bool.not_eq_true _ ▸ hlast
          exact fits_next_data source hfits s x pad window
      | reset => exact absurd rfl hlast
      | _ =>
          rw [next_of_rest source g rfl rfl (.inl rfl)]
          exact hfits

/-- The tail of a body is a body by itself, unless it is empty. -/
theorem bodies_tail (s : StreamId) (tail : Bytes) (hs : Headers) (prio : Option Priority)
    (pad : UInt8) :
    ∀ x ∈ Listener.Reply.bodies
        { frames := Listener.tailFrame s tail ++ [.headers s hs prio pad true] },
      x = tail := by
  unfold Listener.tailFrame Listener.Reply.bodies
  split <;> simp

/-- As long as the decoder lives, every body comes out of it. -/
theorem allows_of_fits (source : DecoderSource δ) {g : Guard δ} {known : Option (Coding δ)}
    (hfits : g.Fits known) {h : Heard} (halive : g ≠ spent) :
    ∀ x ∈ (Coding.hear source known h).1.bodies, g.Allows h x := by
  cases g with
  | free => exact fun _ _ => trivial
  | spent => exact absurd rfl halive
  | bound d =>
      obtain ⟨encoding, rfl⟩ := hfits
      cases h with
      | closed s => exact List.forall_mem_nil _
      | frame f =>
          cases f with
          | data s x pad ends window =>
              cases hfeed : Decoder.feedLast d x ends with
              | error e => simp [Coding.hear, hfeed, Listener.Reply.bodies]
              | ok r =>
                  simp [Coding.hear, hfeed, Listener.Reply.bodies, Allows, output?,
                    Except.toOption]
          | headers s hs prio pad ends =>
              cases ends with
              | false => exact List.forall_mem_nil _
              | true =>
                  cases hfinish : Decoder.finish d with
                  | error e => simp [Coding.hear, hfinish, Listener.Reply.bodies]
                  | ok tail =>
                      simp only [Coding.hear, hfinish]
                      intro x hx
                      rw [bodies_tail s tail hs prio pad x hx]
                      simp [Allows, output?, hfinish, Except.toOption]
          | _ => exact List.forall_mem_nil _

/-- Nothing else than a body can be a body once the decoder is spent. -/
theorem bodies_of_spent (source : DecoderSource δ) {known : Option (Coding δ)}
    (hfits : (spent : Guard δ).Fits known) {h : Heard} (hbody : h.isBody = false) :
    (Coding.hear source known h).1.bodies = [] := by
  cases h with
  | closed s => rfl
  | frame f =>
      cases f with
      | data => cases hbody
      | headers s hs prio pad ends =>
          cases known with
          | none => rfl
          | some c =>
              cases c with
              | identity => rfl
              | decoding encoding d => exact absurd rfl (hfits encoding d)
      | _ => rfl

/-- Once the decoder is spent, a body is handed on as it came. -/
theorem hear_of_spent (source : DecoderSource δ) {known : Option (Coding δ)}
    (hfits : (spent : Guard δ).Fits known) {f : Frame} (hbody : (Heard.frame f).isBody) :
    (Coding.hear source known (.frame f)).1.frames = [f] := by
  cases f with
  | data s x pad ends window => rw [Coding.hear_data_raw source hfits]
  | _ => cases hbody

theorem bodies_of_piece (source : DecoderSource δ) {known : Option (Coding δ)}
    (hfits : (spent : Guard δ).Fits known) {h : Heard} (hbody : h.isBody) :
    ∃ x, x ∈ (Coding.hear source known h).1.bodies := by
  cases h with
  | closed s => cases hbody
  | frame f =>
      cases f with
      | data s x pad ends window =>
          refine ⟨x, ?_⟩
          rw [Coding.hear_data_raw source hfits]
          exact List.mem_singleton.mpr rfl
      | _ => cases hbody

/-- Each reply to what is heard of a stream is the one of the stream's machine, in a state that
goes with what the stream is owed by then. -/
theorem watch_replies (s : StreamId) (heard : List Heard) (l : Listener δ) (g : Guard δ)
    (hfits : g.Fits (l.coding? s)) :
    ∀ x ∈ watch l.source s g (l.replies heard),
      ∃ known, x.1.Fits known ∧ (Coding.hear l.source known x.2.1).1 = x.2.2 := by
  induction heard generalizing l g with
  | nil => simp [Listener.replies, watch]
  | cons h heard ih =>
      have hrest := ih (l.next h)
      rw [Listener.source_next] at hrest
      rw [Listener.replies, watch]
      by_cases hs : h.stream? = some s
      · rw [if_pos (Heard.isAbout_iff.mpr hs)]
        rintro x (_ | ⟨_, hx⟩)
        · exact ⟨l.coding? s, hfits, (l.reply_of_about hs).symm⟩
        · refine hrest _ ?_ x hx
          rw [l.reply_of_about hs, l.coding?_next_of_about hs]
          exact fits_next l.source hfits h
      · rw [if_neg fun hab => hs (Heard.isAbout_iff.mp hab)]
        refine hrest g ?_
        rwa [Listener.coding?_next_of_ne l hs]

/-- Whatever a listener hears, a stream whose coding was taken out of its headers gets nothing as
its body but what its decoder gives out, save for the pieces that come in after the decoder has
failed and before the stream is over: each of these is handed on as it came. -/
theorem bodies_decoded_iff (source : DecoderSource δ) (heard : List Heard) (s : StreamId)
    (g : Guard δ) (h : Heard) (r : Listener.Reply)
    (hmem : (g, h, r) ∈ watch source s free ((Listener.ofSource source).replies heard)) :
    ((∀ x ∈ r.bodies, g.Allows h x) ↔ ¬(g = spent ∧ h.isBody)) ∧
      ∀ f, g = spent → h = .frame f → h.isBody → r.frames = [f] := by
  have hfresh : (free : Guard δ).Fits ((Listener.ofSource source).coding? s) :=
    fun _ _ hknown => nomatch hknown
  obtain ⟨known, hfits, hreply⟩ :=
    watch_replies s heard (Listener.ofSource source) free hfresh _ hmem
  obtain rfl : (Coding.hear source known h).1 = r := hreply
  refine ⟨⟨?_, fun hspared => ?_⟩, ?_⟩
  · rintro hall ⟨rfl, hbody⟩
    obtain ⟨x, hx⟩ := bodies_of_piece source hfits hbody
    exact hall x hx
  · by_cases hspent : g = spent
    · subst hspent
      have hbody : h.isBody = false := by simpa using hspared
      rw [bodies_of_spent source hfits hbody]
      exact nofun
    · exact allows_of_fits source hfits hspent
  · rintro f rfl rfl hbody
    exact hear_of_spent source hfits hbody

/-- A body that its decoder gives up on with the first piece. -/
def brokenBody : List Heard :=
  let headers := Headers.empty.insert (Bytes.ofText contentEncoding) (Bytes.ofText "x-fail")
  let piece (text : String) : Heard := .frame (.data (.ofNat 1) (Bytes.ofText text) 0 false 3)
  [.frame (.headers (.ofNat 1) headers none 0 false), piece "abc", piece "def"]

/-- The second piece of the broken body is handed on as it came. -/
theorem brokenBody_second :
    let second : Frame := .data (.ofNat 1) (Bytes.ofText "def") 0 false 3
    let x : Guard ToyDecoder × Heard × Listener.Reply :=
      (spent, .frame second, { frames := [second] })
    x ∈ watch ToyDecoder.ofTestCoding (.ofNat 1) free
        ((Listener.ofSource ToyDecoder.ofTestCoding).replies brokenBody) ∧
      ¬∀ b ∈ x.2.2.bodies, x.1.Allows x.2.1 b := by
  intro second x
  have hmem : x ∈ watch ToyDecoder.ofTestCoding (.ofNat 1) free
      ((Listener.ofSource ToyDecoder.ofTestCoding).replies brokenBody) := by decide +kernel
  refine ⟨hmem, fun hall => ?_⟩
  have hiff := bodies_decoded_iff ToyDecoder.ofTestCoding brokenBody (.ofNat 1) _ _ _ hmem
  exact hiff.1.mp hall ⟨rfl, rfl⟩

/-- Not every body that is handed on in place of a coded one comes out of the decoder. -/
theorem brokenBody_not_decoded :
    ¬∀ x ∈ watch ToyDecoder.ofTestCoding (.ofNat 1) free
        ((Listener.ofSource ToyDecoder.ofTestCoding).replies brokenBody),
      ∀ b ∈ x.2.2.bodies, x.1.Allows x.2.1 b := by decide +kernel

end Guard

end FrameBridge
