import FrameBridge.Decoding.Builtin
import FrameBridge.Rehearsal.ContentDecoder
import Mathlib.Data.List.Induction

/-!
# A body is decoded the same however it is cut

The library that decompresses is taken to see octets and not pieces: what its decoders
write out in all, or the error they end with, depends on the octets they are fed.  The
built-in decoders empty the buffer after each piece, and hold the first octets of a
deflate body back until there are two.  Neither changes what comes out in all.
-/

namespace FrameBridge

namespace Decoder

variable {δ : Type} [Decoder δ]

/-- What comes of a body that arrives in pieces: all that is decoded, or the failure. -/
def decode (d : δ) (pieces : List Bytes) : Except DecodeError Bytes :=
  match decodeAll d pieces with
  | (outs, none) => .ok outs.flatten
  | (_, some e) => .error e

theorem decode_nil (d : δ) : decode d [] = finish d := by
  simp only [decode, decodeAll, feedAll]
  cases finish d with
  | error e => rfl
  | ok tail => exact congrArg Except.ok (List.append_nil tail)

theorem decodeAll_cons_eq (d : δ) (piece : Bytes) (pieces : List Bytes) :
    decodeAll d (piece :: pieces) =
      match feed d piece with
      | .error e => ([], some e)
      | .ok (out, d) => (out :: (decodeAll d pieces).1, (decodeAll d pieces).2) := by
  simp only [decodeAll, feedAll]
  cases feed d piece with
  | error e => rfl
  | ok r =>
      obtain ⟨out, d'⟩ := r
      simp only
      generalize feedAll d' pieces = fed
      obtain ⟨outs, left⟩ := fed
      cases left with
      | error e => rfl
      | ok left =>
          simp only
          cases finish left <;> rfl

theorem decode_cons (d : δ) (piece : Bytes) (pieces : List Bytes) :
    decode d (piece :: pieces) =
      (feed d piece).bind fun (out, d) => (decode d pieces).map (out ++ ·) := by
  simp only [decode, decodeAll_cons_eq]
  cases feed d piece with
  | error e => rfl
  | ok r =>
      obtain ⟨out, d'⟩ := r
      simp only [Except.bind]
      rcases decodeAll d' pieces with ⟨outs, failure⟩
      cases failure <;> rfl

end Decoder

open Decoder (decode decode_nil decode_cons decodeAll decodeAll_cons_eq)

/-! ### The library -/

namespace Buffered

variable {σ : Type} [WriteDecoder σ]

/-- All that is in the buffer in the end, if it is never emptied, or the failure. -/
def total (b : Buffered σ) : List Bytes → Except DecodeError Bytes
  | [] => (WriteDecoder.tryFinish b.decoder).map (b.buffer ++ ·)
  | piece :: pieces => (b.writeAll piece).bind fun b => b.total pieces

/-- What is in the buffer stays there, and changes nothing else. -/
theorem writeAll_append (held : Bytes) (b : Buffered σ) (piece : Bytes) :
    writeAll { b with buffer := held ++ b.buffer } piece =
      (b.writeAll piece).map fun b => { b with buffer := held ++ b.buffer } := by
  fun_induction writeAll b piece with
  | case1 b => simp [writeAll, Except.map]
  | case2 b piece hpiece e hwrite => simp [writeAll, hpiece, hwrite, Except.map]
  | case3 b piece hpiece out decoder hwrite => simp [writeAll, hpiece, hwrite, Except.map]
  | case4 b piece hpiece taken out decoder hwrite htaken ih =>
      rw [writeAll, dif_neg hpiece]
      simp only [hwrite, dif_neg htaken]
      rw [← ih, List.append_assoc]

theorem total_append (held : Bytes) (b : Buffered σ) (pieces : List Bytes) :
    total { b with buffer := held ++ b.buffer } pieces = (b.total pieces).map (held ++ ·) := by
  induction pieces generalizing b with
  | nil =>
      simp only [total]
      cases WriteDecoder.tryFinish b.decoder with
      | error e => rfl
      | ok tail => exact congrArg Except.ok (List.append_assoc held b.buffer tail)
  | cons piece pieces ih =>
      simp only [total, writeAll_append]
      cases b.writeAll piece with
      | error e => rfl
      | ok b' => exact ih b'

/-- It does not matter that the buffer is emptied after each piece. -/
theorem decode_eq_total (b : Buffered σ) (pieces : List Bytes) :
    decode b pieces = b.total pieces := by
  induction pieces generalizing b with
  | nil => exact decode_nil b
  | cons piece pieces ih =>
      have hfeed : Decoder.feed b piece = (b.writeAll piece).map take := rfl
      rw [decode_cons, hfeed, total]
      cases b.writeAll piece with
      | error e => rfl
      | ok b' =>
          have happend := total_append b'.buffer { b' with buffer := [] } pieces
          rw [List.append_nil] at happend
          exact (congrArg _ (ih _)).trans happend.symm

end Buffered

/-- What a decoder writes out in all depends on the octets that it is fed, not on the pieces they
come in. -/
def WriteDecoder.ReadsOctets {σ : Type} [WriteDecoder σ] (d : σ) : Prop :=
  ∀ pieces pieces' : List Bytes, pieces.flatten = pieces'.flatten →
    Buffered.total { decoder := d } pieces = Buffered.total { decoder := d } pieces'

open WriteDecoder (ReadsOctets)

namespace BuiltinDecoder

variable {σ : Type} [WriteDecoder σ]

/-- A decoder that has been decided on does what the library's does. -/
theorem decodeAll_decided (body : Buffered σ) (pieces : List Bytes) :
    decodeAll (BuiltinDecoder.decided body) pieces = decodeAll body pieces := by
  induction pieces generalizing body with
  | nil => rfl
  | cons piece pieces ih =>
      have hfeed : Decoder.feed (BuiltinDecoder.decided body) piece =
          (Decoder.feed body piece).map (Prod.map id .decided) := rfl
      rw [decodeAll_cons_eq, decodeAll_cons_eq, hfeed]
      cases Decoder.feed body piece with
      | error e => rfl
      | ok r =>
          obtain ⟨out, body'⟩ := r
          simp only [Except.map, Prod.map, id, ih]

/-! ### The first octets of a deflate body -/

theorem feed_undecided_short {head piece : Bytes} (hshort : (head ++ piece).length < 2) :
    Decoder.feed (BuiltinDecoder.undecided (σ := σ) head) piece =
      .ok ([], .undecided (head ++ piece)) := by
  change feed _ _ = _
  rw [feed]
  match hsplit : head ++ piece with
  | [] => rfl
  | [_] => rfl
  | method :: options :: rest =>
      rw [hsplit, List.length_cons, List.length_cons] at hshort
      omega

theorem feed_undecided {head piece rest : Bytes} {method options : UInt8}
    (hsplit : head ++ piece = method :: options :: rest) :
    Decoder.feed (BuiltinDecoder.undecided (σ := σ) head) piece =
      Decoder.feed (BuiltinDecoder.decided (Buffered.start (σ := σ) (format method options)))
        (head ++ piece) := by
  change feed _ _ = feed _ _
  rw [feed, hsplit]
  rfl

/-- The pieces that bring the first two octets reach the library's decoder as one, and the others as
they come. -/
theorem decodeAll_undecided {method options : UInt8} {rest : Bytes} (head : Bytes)
    (hhead : head.length < 2) (pieces : List Bytes)
    (hbody : head ++ pieces.flatten = method :: options :: rest) :
    ∃ (early : List Bytes) (piece : Bytes) (late : List Bytes),
      pieces = early ++ piece :: late ∧ (head ++ early.flatten).length < 2 ∧
      decodeAll (BuiltinDecoder.undecided (σ := σ) head) pieces =
        let decoded := decodeAll (Buffered.start (σ := σ) (format method options))
          ((head ++ early.flatten ++ piece) :: late)
        (List.replicate early.length [] ++ decoded.1, decoded.2) := by
  induction pieces generalizing head with
  | nil =>
      rw [List.flatten_nil, List.append_nil] at hbody
      rw [hbody, List.length_cons, List.length_cons] at hhead
      omega
  | cons piece pieces ih =>
      rw [List.flatten_cons, ← List.append_assoc] at hbody
      by_cases hshort : (head ++ piece).length < 2
      · obtain ⟨early, next, late, rfl, hearly, hdecode⟩ := ih (head ++ piece) hshort hbody
        refine ⟨piece :: early, next, late, rfl, ?_, ?_⟩
        · rwa [List.flatten_cons, ← List.append_assoc]
        · rw [decodeAll_cons_eq, feed_undecided_short hshort]
          simp only [hdecode, List.flatten_cons, List.append_assoc, List.length_cons,
            List.replicate_succ, List.cons_append]
      · refine ⟨[], piece, pieces, rfl, ?_, ?_⟩
        · rwa [List.flatten_nil, List.append_nil]
        · match hsplit : head ++ piece with
          | [] => simp [hsplit] at hshort
          | [_] => simp [hsplit] at hshort
          | first :: second :: others =>
              rw [hsplit, List.cons_append, List.cons_append] at hbody
              obtain ⟨rfl, rfl, -⟩ : first = method ∧ second = options ∧ _ := by
                simpa using hbody
              rw [← decodeAll_decided, decodeAll_cons_eq, feed_undecided hsplit,
                List.flatten_nil, List.append_nil, decodeAll_cons_eq]
              rfl

/-- A body of fewer than two octets stays undecided. -/
theorem decode_undecided_short (head : Bytes) (pieces : List Bytes)
    (hshort : (head ++ pieces.flatten).length < 2) :
    decode (BuiltinDecoder.undecided (σ := σ) head) pieces =
      Decoder.finish (BuiltinDecoder.undecided (σ := σ) (head ++ pieces.flatten)) := by
  induction pieces generalizing head with
  | nil => rw [decode_nil, List.flatten_nil, List.append_nil]
  | cons piece pieces ih =>
      rw [List.flatten_cons, ← List.append_assoc] at hshort ⊢
      have hlength : (head ++ piece).length < 2 := by
        rw [List.length_append] at hshort
        omega
      rw [decode_cons, feed_undecided_short hlength, ← ih _ hshort]
      cases hdecode : decode (BuiltinDecoder.undecided (σ := σ) (head ++ piece)) pieces <;>
        simp [Except.bind, Except.map, hdecode]

/-- A body of two octets or more is decoded as the library's decoder that they choose decodes it. -/
theorem decode_undecided {method options : UInt8} {rest : Bytes} (pieces : List Bytes)
    (hbody : pieces.flatten = method :: options :: rest) :
    ∃ pieces' : List Bytes, pieces'.flatten = pieces.flatten ∧
      decode (BuiltinDecoder.undecided (σ := σ) []) pieces =
        Buffered.total (Buffered.start (σ := σ) (format method options)) pieces' := by
  obtain ⟨early, piece, late, rfl, -, hdecode⟩ :=
    decodeAll_undecided (σ := σ) [] (Nat.succ_pos _) pieces ((List.nil_append _).trans hbody)
  refine ⟨(early.flatten ++ piece) :: late, by simp, ?_⟩
  rw [← Buffered.decode_eq_total]
  simp only [decode, hdecode, List.nil_append]
  generalize decodeAll (Buffered.start (σ := σ) (format method options))
    ((early.flatten ++ piece) :: late) = decoded
  obtain ⟨outs, failure⟩ := decoded
  cases failure with
  | some e => rfl
  | none => simp

/-! ### Two cuts -/

theorem decode_decided_eq {body : Buffered σ} (hbody : body.buffer = [])
    (hreads : ReadsOctets body.decoder) {pieces pieces' : List Bytes}
    (h : pieces.flatten = pieces'.flatten) :
    decode (BuiltinDecoder.decided body) pieces = decode (BuiltinDecoder.decided body) pieces' := by
  have htotal (pieces : List Bytes) :
      decode (BuiltinDecoder.decided body) pieces = body.total pieces := by
    rw [← Buffered.decode_eq_total, decode, decode, decodeAll_decided]
  obtain ⟨decoder, buffer⟩ := body
  cases hbody
  rw [htotal, htotal]
  exact hreads pieces pieces' h

theorem decode_undecided_eq
    (hreads : ∀ format, ReadsOctets (WriteDecoder.start format : σ))
    {pieces pieces' : List Bytes} (h : pieces.flatten = pieces'.flatten) :
    decode (BuiltinDecoder.undecided (σ := σ) []) pieces =
      decode (BuiltinDecoder.undecided (σ := σ) []) pieces' := by
  match hbody : pieces.flatten with
  | method :: options :: rest =>
      obtain ⟨cut, hcut, hdecode⟩ := decode_undecided (σ := σ) pieces hbody
      obtain ⟨cut', hcut', hdecode'⟩ := decode_undecided (σ := σ) pieces' (h.symm.trans hbody)
      rw [hdecode, hdecode']
      exact hreads _ cut cut' (hcut.trans (h.trans hcut'.symm))
  | [] | [_] =>
      have hshort : ([] ++ pieces.flatten).length < 2 := by simp [hbody]
      rw [decode_undecided_short [] pieces hshort,
        decode_undecided_short [] pieces' (h ▸ hshort), h]

/-- Each of the built-in decoders makes the same of a body however the body is cut: the same output
in all, or the same error.

Which format a deflate body is in depends on its first two octets.  The pieces up to the one that
brings the second of them are fed to the library's decoder as one, with nothing given out before,
and the pieces behind them as they come. -/
theorem agrees_however_cut (hreads : ∀ format, ReadsOctets (WriteDecoder.start format : σ))
    {coding : String} (hcoding : coding ∈ ["gzip", "x-gzip", "deflate", "x-deflate"]) :
    ∃ d : BuiltinDecoder σ, ofCoding coding = some d ∧
      (∀ pieces pieces' : List Bytes, pieces.flatten = pieces'.flatten →
        decode d pieces = decode d pieces') ∧
      (coding ∈ ["deflate", "x-deflate"] →
        ∀ (pieces : List Bytes) (method options : UInt8) (rest : Bytes),
          pieces.flatten = method :: options :: rest →
            ∃ (early : List Bytes) (piece : Bytes) (late : List Bytes),
              pieces = early ++ piece :: late ∧ early.flatten.length < 2 ∧
              decodeAll d pieces =
                let decoded := decodeAll (Buffered.start (σ := σ) (format method options))
                  ((early.flatten ++ piece) :: late)
                (List.replicate early.length [] ++ decoded.1, decoded.2)) := by
  have hdeflate (pieces : List Bytes) (method options : UInt8) (rest : Bytes)
      (hbody : pieces.flatten = method :: options :: rest) :=
    decodeAll_undecided (σ := σ) [] (Nat.succ_pos _) pieces ((List.nil_append _).trans hbody)
  simp only [List.nil_append] at hdeflate
  simp only [List.mem_cons, List.not_mem_nil, or_false] at hcoding
  rcases hcoding with rfl | rfl | rfl | rfl
  · exact ⟨_, rfl, fun _ _ => decode_decided_eq rfl (hreads _), fun h => by simp at h⟩
  · exact ⟨_, rfl, fun _ _ => decode_decided_eq rfl (hreads _), fun h => by simp at h⟩
  · exact ⟨_, rfl, fun _ _ => decode_undecided_eq hreads, fun _ => hdeflate⟩
  · exact ⟨_, rfl, fun _ _ => decode_undecided_eq hreads, fun _ => hdeflate⟩

end BuiltinDecoder

/-- A decoder that keeps the octets until the data is over, and then decodes them at once. -/
structure PatientDecoder where
  format : DataFormat
  seen : Bytes := []

namespace PatientDecoder

instance : WriteDecoder PatientDecoder where
  start format := { format }
  write d piece := .ok (piece.length, [], { d with seen := d.seen ++ piece })
  tryFinish d := do
    let (taken, out, left) ← (Inflating.start d.format).write d.seen
    if taken < d.seen.length then .error .leftOver
    else left.tryFinish.map (out ++ ·)

theorem writeAll_eq (b : Buffered PatientDecoder) (piece : Bytes) :
    b.writeAll piece =
      .ok { b with decoder := { b.decoder with seen := b.decoder.seen ++ piece } } := by
  rw [Buffered.writeAll]
  split
  next hpiece => rw [hpiece, List.append_nil]
  next hpiece =>
    have hlength : piece.length ≠ 0 := fun h => hpiece (List.length_eq_zero_iff.mp h)
    simp only [WriteDecoder.write, dif_neg hlength, List.drop_length, List.append_nil]
    rw [Buffered.writeAll, dif_pos rfl]

theorem total_eq (b : Buffered PatientDecoder) (pieces : List Bytes) :
    b.total pieces = Buffered.total
      { b with decoder := { b.decoder with seen := b.decoder.seen ++ pieces.flatten } } [] := by
  induction pieces generalizing b with
  | nil => rw [List.flatten_nil, List.append_nil]
  | cons piece pieces ih =>
      have hfirst : b.total (piece :: pieces) = (b.writeAll piece).bind fun b => b.total pieces :=
        rfl
      rw [hfirst, writeAll_eq, List.flatten_cons, ← List.append_assoc]
      exact ih _

theorem readsOctets (d : PatientDecoder) : ReadsOctets d := fun pieces pieces' h => by
  rw [total_eq, h, ← total_eq]

end PatientDecoder

/-- A stored block in its wrapping, as one piece and in pieces that part the first two octets. -/
theorem BuiltinDecoder.agrees_however_cut_stored :
    let pieces : List Bytes :=
      [[0x78, 0x01, 0x01, 0x02, 0x00, 0xfd, 0xff, 0x68, 0x69, 0x01, 0x3b, 0x00, 0xd2]]
    let pieces' : List Bytes :=
      [[0x78], [], [0x01, 0x01, 0x02, 0x00], [0xfd, 0xff, 0x68], [0x69, 0x01, 0x3b, 0x00, 0xd2]]
    pieces.flatten = pieces'.flatten ∧ "deflate" ∈ ["gzip", "x-gzip", "deflate", "x-deflate"] ∧
      (∀ format, ReadsOctets (WriteDecoder.start format : PatientDecoder)) ∧
      decode (BuiltinDecoder.undecided (σ := PatientDecoder) []) pieces = .ok [0x68, 0x69] ∧
      decode (BuiltinDecoder.undecided (σ := PatientDecoder) []) pieces' = .ok [0x68, 0x69] := by
  intro pieces pieces'
  have hreads (format : DataFormat) : ReadsOctets (WriteDecoder.start format : PatientDecoder) :=
    PatientDecoder.readsOctets _
  obtain ⟨d, hcoding, hsame, -⟩ :=
    BuiltinDecoder.agrees_however_cut hreads
      (show "deflate" ∈ ["gzip", "x-gzip", "deflate", "x-deflate"] by simp)
  cases hcoding
  have hwhole : decode (BuiltinDecoder.undecided (σ := PatientDecoder) []) pieces =
      .ok [0x68, 0x69] := by
    decide +kernel
  exact ⟨rfl, by simp, hreads, hwhole, hsame pieces pieces' rfl ▸ hwhole⟩

end FrameBridge
