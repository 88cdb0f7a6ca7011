import FrameBridge.Proofs.Listening.Apart
import FrameBridge.Rehearsal.ToyDecoder
import Mathlib.Algebra.GroupWithZero.Nat

/-!
# A decoded body, from its headers to its end

`Unpacked` says what a stream looks like whose body is decoded: the frames that come in, the answers
of the decoder, one for each call, and the frames that are handed on.  The answer that ends a body
goes into the frame that ends the stream.  Only where that frame is no piece of the body does the
answer get a frame of its own, and only if there is something in it.

A listener turns every stream for which it has made a decoder into a stream like this, as long as
the decoder does not fail.  The body is then whole, the inbound window is charged what it was
charged before, and the stream ends once.
-/

namespace FrameBridge

namespace Frame

/-- The piece of the body that a frame carries. -/
def piece? : Frame → Option Bytes
  | .data _ x _ _ _ => some x
  | _ => none

/-- What a frame costs in the inbound window. -/
def cost : Frame → Nat
  | .data _ _ _ _ window => window.toNat
  | _ => 0

/-- Whether a frame ends its stream. -/
def endsStream : Frame → Bool
  | .data _ _ _ ends _ | .headers _ _ _ _ ends => ends
  | _ => false

/-- Whether a frame resets its stream. -/
def isReset : Frame → Bool
  | .reset .. => true
  | _ => false

end Frame

/-- The frames of a stream that come in, the answers of its decoder, and the frames that are
handed on. -/
inductive Unpacked : List Frame → List Bytes → List Frame → Prop where
  | piece (s : StreamId) (x : Bytes) (pad : UInt8) (window : UInt32) (out : Bytes)
      {frames : List Frame} {outs : List Bytes} {handed : List Frame}
      (hrest : Unpacked frames outs handed) :
      Unpacked (.data s x pad false window :: frames) (out :: outs)
        (.data s out pad false window :: handed)
  | beside {f : Frame} (hpiece : f.piece? = none) (hends : f.endsStream = false)
      {frames : List Frame} {outs : List Bytes} {handed : List Frame}
      (hrest : Unpacked frames outs handed) : Unpacked (f :: frames) outs (f :: handed)
  | lastPiece (s : StreamId) (x : Bytes) (pad : UInt8) (window : UInt32) (out tail : Bytes) :
      Unpacked [.data s x pad true window] [out, tail] [.data s (out ++ tail) pad true window]
  | trailers (s : StreamId) (h : Headers) (prio : Option Priority) (pad : UInt8) :
      Unpacked [.headers s h prio pad true] [[]] [.headers s h prio pad true]
  | tailAndTrailers (s : StreamId) (h : Headers) (prio : Option Priority) (pad : UInt8)
      {tail : Bytes} (htail : tail ≠ []) :
      Unpacked [.headers s h prio pad true] [tail]
        [.data s tail 0 false 0, .headers s h prio pad true]

namespace Unpacked

variable {frames handed : List Frame} {outs : List Bytes}

/-- All that the decoder gives out is handed on, in order, and nothing else is. -/
theorem pieces_handed (h : Unpacked frames outs handed) :
    (handed.filterMap Frame.piece?).flatten = outs.flatten := by
  induction h with
  | piece s x pad window out _ ih =>
      simp only [List.filterMap_cons, Frame.piece?, List.flatten_cons, ih]
  | beside hpiece _ _ ih => rwa [List.filterMap_cons_none hpiece]
  | lastPiece | trailers | tailAndTrailers => simp [Frame.piece?]

/-- The inbound window is charged the same. -/
theorem cost_handed (h : Unpacked frames outs handed) :
    (handed.map Frame.cost).sum = (frames.map Frame.cost).sum := by
  induction h with
  | piece s x pad window out _ ih => simp only [List.map_cons, List.sum_cons, Frame.cost, ih]
  | beside _ _ _ ih => simp only [List.map_cons, List.sum_cons, ih]
  | lastPiece | trailers | tailAndTrailers => simp [Frame.cost]

/-- The stream ends with the last frame that is handed on, and with no other. -/
theorem ends_handed (h : Unpacked frames outs handed) :
    ∃ earlier last, handed = earlier ++ [last] ∧ last.endsStream = true ∧
      ∀ f ∈ earlier, f.endsStream = false := by
  have hcons {f : Frame} {handed : List Frame} (hf : f.endsStream = false)
      (ih : ∃ earlier last, handed = earlier ++ [last] ∧ last.endsStream = true ∧
        ∀ f ∈ earlier, f.endsStream = false) :
      ∃ earlier last, f :: handed = earlier ++ [last] ∧ last.endsStream = true ∧
        ∀ f ∈ earlier, f.endsStream = false := by
    obtain ⟨earlier, last, rfl, hlast, hearlier⟩ := ih
    exact ⟨f :: earlier, last, rfl, hlast, List.forall_mem_cons.mpr ⟨hf, hearlier⟩⟩
  induction h with
  | piece _ _ _ _ _ _ ih => exact hcons rfl ih
  | beside _ hends _ ih => exact hcons hends ih
  | lastPiece | trailers => exact ⟨[], _, rfl, rfl, nofun⟩
  | tailAndTrailers => exact hcons rfl ⟨[], _, rfl, rfl, nofun⟩

end Unpacked

namespace Decoder

variable {δ : Type} [Decoder δ]

/-- A body is decoded without a failure if its first piece is, and then the others are. -/
theorem decodeAll_cons {d : δ} {x : Bytes} {pieces : List Bytes} {outs : List Bytes}
    (h : decodeAll d (x :: pieces) = (outs, none)) :
    ∃ out d' outs', feed d x = .ok (out, d') ∧ decodeAll d' pieces = (outs', none) ∧
      outs = out :: outs' := by
  simp only [decodeAll, feedAll] at h
  cases hfeed : feed d x with
  | error e => simp [hfeed] at h
  | ok r =>
      obtain ⟨out, d'⟩ := r
      refine ⟨out, d', (decodeAll d' pieces).1, rfl, ?_⟩
      simp only [hfeed] at h
      unfold decodeAll
      rcases hall : feedAll d' pieces with ⟨outs', left⟩
      rw [hall] at h
      cases left with
      | error e => simp at h
      | ok left =>
          simp only at h ⊢
          cases hfinish : finish left with
          | error e => simp [hfinish] at h
          | ok tail =>
              simp only [hfinish, Prod.mk.injEq, and_true] at h
              simp [← h]

/-- Where no piece comes any more, only the end is left. -/
theorem decodeAll_nil {d : δ} {outs : List Bytes} (h : decodeAll d [] = (outs, none)) :
    ∃ tail, finish d = .ok tail ∧ outs = [tail] := by
  simp only [decodeAll, feedAll] at h
  cases hfinish : finish d with
  | error e => simp [hfinish] at h
  | ok tail => exact ⟨tail, rfl, by simpa [hfinish] using h.symm⟩

end Decoder

namespace Coding

variable {δ : Type} [Decoder δ]

/-- From what is known of a body on, the frames of a stream become these, there is no error, and
the stream is forgotten in the end. -/
def TurnsInto (source : DecoderSource δ) (known : Option (Coding δ)) (frames handed : List Frame) :
    Prop :=
  let run := hears source known (frames.map .frame)
  run.1.flatMap (·.2.frames) = handed ∧ (∀ x ∈ run.1, x.2.error = none) ∧ run.2 = none

theorem TurnsInto.cons {source : DecoderSource δ} {known known' : Option (Coding δ)} {f : Frame}
    {frames handed : List Frame} {r : Listener.Reply}
    (hhear : hear source known (.frame f) = (r, known')) (herror : r.error = none)
    (hrest : TurnsInto source known' frames handed) :
    TurnsInto source known (f :: frames) (r.frames ++ handed) := by
  obtain ⟨hframes, herrors, hknown⟩ := hrest
  unfold TurnsInto
  rw [List.map_cons, hears, hhear]
  refine ⟨?_, ?_, hknown⟩
  · simp only [List.flatMap_cons, hframes]
  · exact List.forall_mem_cons.mpr ⟨herror, herrors⟩

theorem TurnsInto.last {source : DecoderSource δ} {known : Option (Coding δ)} {f : Frame}
    {r : Listener.Reply} (hhear : hear source known (.frame f) = (r, none))
    (herror : r.error = none) : TurnsInto source known [f] r.frames := by
  have hnothing : TurnsInto source (none : Option (Coding δ)) [] [] :=
    ⟨rfl, fun _ hx => absurd hx List.not_mem_nil, rfl⟩
  simpa using hnothing.cons hhear herror

/-- The frame that ends a stream, with the last answers of the decoder. -/
theorem turnsInto_last (source : DecoderSource δ) (encoding : String) {d : δ} {last : Frame}
    {outs : List Bytes} (hends : last.endsStream = true)
    (hdecodes : Decoder.decodeAll d (List.filterMap Frame.piece? [last]) = (outs, none)) :
    ∃ handed, Unpacked [last] outs handed ∧
      TurnsInto source (some (.decoding encoding d)) [last] handed := by
  cases last with
  | data s x pad ends window =>
      obtain rfl : ends = true := hends
      obtain ⟨out, d', outs', hfeed, hrest, rfl⟩ := Decoder.decodeAll_cons hdecodes
      obtain ⟨tail, hfinish, rfl⟩ := Decoder.decodeAll_nil hrest
      have hlast : Decoder.feedLast d x true = .ok (out ++ tail, d') := by
        simp [Decoder.feedLast, hfeed, hfinish, bind, Except.bind, pure, Except.pure]
      refine ⟨_, .lastPiece s x pad window out tail, ?_⟩
      exact TurnsInto.last (r := { frames := [.data s (out ++ tail) pad true window] })
        (by simp [hear, hlast]) rfl
  | headers s h prio pad ends =>
      obtain rfl : ends = true := hends
      obtain ⟨tail, hfinish, rfl⟩ := Decoder.decodeAll_nil hdecodes
      have hhear : hear source (some (.decoding encoding d)) (.frame (.headers s h prio pad true)) =
          ({ frames := Listener.tailFrame s tail ++ [.headers s h prio pad true] }, none) := by
        simp [hear, hfinish]
      refine ⟨_, ?_, TurnsInto.last hhear rfl⟩
      cases tail with
      | nil => exact .trailers s h prio pad
      | cons x tail => exact .tailAndTrailers s h prio pad (List.cons_ne_nil x tail)
  | _ => cases hends

/-- A frame on the way to the end that is no piece of the body is handed on as it is. -/
theorem hear_beside (source : DecoderSource δ) (known : Coding δ) {f : Frame}
    (hpiece : f.piece? = none) (hends : f.endsStream = false) (hreset : f.isReset = false) :
    hear source (some known) (.frame f) = ({ frames := [f] }, some known) := by
  cases f with
  | data => cases hpiece
  | headers s h prio pad ends =>
      obtain rfl : ends = false := hends
      cases known <;> rfl
  | reset => cases hreset
  | _ => rfl

/-- The frames after the first headers, up to the end of the stream.  The induction goes along the
frames, with whatever decoder is left by then. -/
theorem turnsInto_decoded (source : DecoderSource δ) (encoding : String) {last : Frame}
    (hlast : last.endsStream = true) (body : List Frame)
    (hbody : ∀ f ∈ body, f.endsStream = false ∧ f.isReset = false) (d : δ) (outs : List Bytes)
    (hdecodes :
      Decoder.decodeAll d ((body ++ [last]).filterMap Frame.piece?) = (outs, none)) :
    ∃ handed, Unpacked (body ++ [last]) outs handed ∧
      TurnsInto source (some (.decoding encoding d)) (body ++ [last]) handed := by
  induction body generalizing d outs with
  | nil => exact turnsInto_last source encoding hlast hdecodes
  | cons f body ih =>
      obtain ⟨⟨hends, hreset⟩, hbody⟩ := List.forall_mem_cons.mp hbody
      rw [List.cons_append] at hdecodes ⊢
      cases hpiece : f.piece? with
      | none =>
          rw [List.filterMap_cons_none hpiece] at hdecodes
          obtain ⟨handed, hdecoded, hturns⟩ := ih hbody d outs hdecodes
          exact ⟨f :: handed, hdecoded.beside hpiece hends,
            hturns.cons (hear_beside source _ hpiece hends hreset) rfl⟩
      | some x =>
          rw [List.filterMap_cons_some hpiece] at hdecodes
          obtain ⟨out, d', outs', hfeed, hrest, rfl⟩ := Decoder.decodeAll_cons hdecodes
          obtain ⟨handed, hdecoded, hturns⟩ := ih hbody d' outs' hrest
          cases f with
          | data s y pad ends window =>
              obtain rfl : ends = false := hends
              obtain rfl : y = x := Option.some.inj hpiece
              have hhear : hear source (some (.decoding encoding d))
                  (.frame (.data s y pad false window)) =
                    ({ frames := [.data s out pad false window] },
                      some (.decoding encoding d')) := by
                simp [hear, Decoder.feedLast, hfeed, bind, Except.bind, pure, Except.pure]
              exact ⟨_, hdecoded.piece s y pad window out, hturns.cons hhear rfl⟩
          | _ => cases hpiece

end Coding

namespace Listener

variable {δ : Type} [Decoder δ]

/-- Headers that name a coding for which a decoder is made are handed on without what they say of
the coded body. -/
theorem hear_coded_headers (source : DecoderSource δ) {h : Headers} {encoding : String} {d : δ}
    (hnamed : namedCoding h = some encoding) (hcoded : encoding ≠ "identity")
    (hmade : source encoding = some d) (s : StreamId) (prio : Option Priority) (pad : UInt8) :
    Coding.hear source none (.frame (.headers s h prio pad false)) =
      ({ frames :=
          [.headers s ((h.remove contentEncoding).remove contentLength) prio pad false]
         asked := some encoding
         found := true }, some (.decoding encoding d)) := by
  simp [Coding.hear, Coding.choose, hnamed, hcoded, hmade]

/-- Let a decoder be made for the body of a stream, and let it decode the whole body without a
failure.  Whatever is heard of other streams in between, the frames that come in for the stream are
handed on as `Unpacked` says, with the answers that the decoder gives when it is fed each piece once
and told once that the body has ended.  So the whole decoded body is handed on, the inbound window
is charged what the frames cost that came in, and the stream ends with the last frame and with no
other.  The stream is then forgotten. -/
theorem body_decoded (l : Listener δ) (s : StreamId) (hnew : l.coding? s = none)
    (h : Headers) (prio : Option Priority) (pad : UInt8) (encoding : String) (d : δ)
    (hnamed : namedCoding h = some encoding) (hcoded : encoding ≠ "identity")
    (hmade : l.source encoding = some d) (body : List Frame) (last : Frame)
    (hbody : ∀ f ∈ body, f.endsStream = false ∧ f.isReset = false)
    (hlast : last.endsStream = true) (heard : List Heard)
    (hheard : heard.filter (Heard.isAbout s) =
      (Frame.headers s h prio pad false :: (body ++ [last])).map .frame)
    (hdecodes : (Decoder.decodeAll d ((body ++ [last]).filterMap Frame.piece?)).2 = none) :
    let outs := (Decoder.decodeAll d ((body ++ [last]).filterMap Frame.piece?)).1
    let replies := (l.replies heard).filter (fun x => x.1.isAbout s)
    ∃ handed,
      replies.flatMap (·.2.frames) =
        .headers s ((h.remove contentEncoding).remove contentLength) prio pad false :: handed ∧
      Unpacked (body ++ [last]) outs handed ∧
      (handed.filterMap Frame.piece?).flatten = outs.flatten ∧
      (handed.map Frame.cost).sum = ((body ++ [last]).map Frame.cost).sum ∧
      (∃ earlier final, handed = earlier ++ [final] ∧ final.endsStream = true ∧
        ∀ f ∈ earlier, f.endsStream = false) ∧
      (∀ x ∈ replies, x.2.error = none) ∧
      (l.after heard).coding? s = none := by
  intro outs replies
  obtain ⟨handed, hdecoded, hturns⟩ := Coding.turnsInto_decoded l.source encoding hlast body hbody d
    outs (Prod.ext rfl hdecodes)
  have hwhole := hturns.cons (hear_coded_headers l.source hnamed hcoded hmade s prio pad) rfl
  obtain ⟨hreplies, hknown⟩ := Prod.ext_iff.mp (l.hears_about s heard)
  rw [hnew, hheard] at hreplies hknown
  obtain ⟨hframes, herrors, hforgotten⟩ := hwhole
  refine ⟨handed, ?_, hdecoded, hdecoded.pieces_handed, hdecoded.cost_handed, hdecoded.ends_handed,
    ?_, ?_⟩
  · rw [← hreplies] at hframes
    exact hframes
  · rw [← hreplies] at herrors
    exact herrors
  · exact hknown.trans hforgotten

/-- What comes ahead of the held body, and names its coding. -/
def heldHeaders : Headers :=
  Headers.empty.insert (Bytes.ofText contentEncoding) (Bytes.ofText "x-hold")

/-- A body that its decoder holds back up to the trailers. -/
def heldBody : List Frame :=
  [.data (.ofNat 1) (Bytes.ofText "abc") 2 false 5, .headers (.ofNat 1) .empty none 0 false,
    .windowUpdate (.ofNat 1) 7, .data (.ofNat 1) [] 0 false 0]

/-- The trailers of the held body. -/
def heldTrailers : Frame := .headers (.ofNat 1) .empty none 0 true

/-- The held body, with another stream in between. -/
def heldHearing : List Heard :=
  [.frame (.headers (.ofNat 1) heldHeaders none 0 false),
    .frame (.headers (.ofNat 3) heldHeaders none 0 false)] ++
  heldBody.map .frame ++ [.closed (.ofNat 3), .frame heldTrailers]

/-- The held body goes ahead of its trailers, in one frame. -/
theorem heldBody_decoded :
    Decoder.decodeAll (ToyDecoder.hold []) ((heldBody ++ [heldTrailers]).filterMap Frame.piece?) =
        ([[], [], Bytes.ofText "cba"], none) ∧
      ∃ handed,
        (((ofSource ToyDecoder.ofCustomCoding).replies heldHearing).filter
            (fun x => x.1.isAbout (.ofNat 1))).flatMap (·.2.frames) =
          .headers (.ofNat 1) ((heldHeaders.remove contentEncoding).remove contentLength) none 0
            false :: handed ∧
        (handed.filterMap Frame.piece?).flatten = Bytes.ofText "cba" ∧
        (handed.map Frame.cost).sum = 5 := by
  have hdecodes : Decoder.decodeAll (ToyDecoder.hold [])
      ((heldBody ++ [heldTrailers]).filterMap Frame.piece?) =
        ([[], [], Bytes.ofText "cba"], none) := by decide +kernel
  have hbody := (ofSource ToyDecoder.ofCustomCoding).body_decoded (.ofNat 1) (by decide +kernel)
    heldHeaders none 0 "x-hold" (.hold []) (by decide +kernel) (by decide) rfl heldBody heldTrailers
    (by decide +kernel) rfl heldHearing (by decide +kernel) (by rw [hdecodes])
  rw [hdecodes] at hbody
  obtain ⟨handed, hframes, -, hpieces, hcost, -⟩ := hbody
  refine ⟨hdecodes, handed, hframes, ?_, ?_⟩
  · rw [hpieces]
    decide +kernel
  · rw [hcost]
    decide +kernel

end Listener

end FrameBridge
