import FrameBridge.Proofs.Listening.Roster

/-!
# Fields that speak of a coding

The codings of a body are named in its headers, in one field or in several.  A listener looks for a
decoder for what the first of these fields names.  Where it finds one all of them are taken away,
since what is taken away goes by the name of the field.  So a coding that only a later field names
is lost without being undone, and that is the only way in which one can be lost.
-/

namespace FrameBridge

/-- The coding that a field names, in lower case and without blanks around it. -/
def HeaderField.coding? (f : HeaderField) : Option String :=
  (Utf8.decode? f.value).map fun text => (Blank.trim text).map Char.toLower

/-- A coding is read in the first field that there is for it. -/
theorem Listener.namedCoding_eq (h : Headers) :
    namedCoding h = (h.fields.find? (·.isNamed contentEncoding)).bind HeaderField.coding? := by
  unfold namedCoding Headers.get?
  cases h.fields.find? (·.isNamed contentEncoding) <;> rfl

theorem Headers.mem_remove {h : Headers} {name : String} {f : HeaderField} :
    f ∈ (h.remove name).fields ↔ f ∈ h.fields ∧ f.isNamed name = false := by
  simp [remove]

namespace Coding

variable {δ : Type} (source : DecoderSource δ)

/-- The coding that a field names is undone when a decoder was made for it, or changes nothing. -/
def Choice.Undoes (c : Choice δ) (f : HeaderField) : Prop :=
  ∃ encoding, f.coding? = some encoding ∧
    (encoding = "identity" ∨ c.found ∧ c.asked = some encoding)

/-- There is a decoder for what the first field names, and another field names something else. -/
def IsHalfKnown (h : Headers) : Prop :=
  ∃ encoding d, Listener.namedCoding h = some encoding ∧ encoding ≠ "identity" ∧
    source encoding = some d ∧
    ∃ f ∈ h.fields, f.isNamed contentEncoding ∧ f.coding? ≠ some encoding ∧
      f.coding? ≠ some "identity"

/-- A decoder is made for the coding that is named, if it changes anything and there is one. -/
theorem choose_found_iff (h : Headers) :
    (choose source h).found ↔
      ∃ encoding d, Listener.namedCoding h = some encoding ∧ encoding ≠ "identity" ∧
        source encoding = some d := by
  unfold choose
  cases Listener.namedCoding h with
  | none => simp
  | some encoding =>
      by_cases hid : encoding = "identity"
      · simp [hid]
      · cases hsource : source encoding <;> simp [hid, hsource]

/-- Where a decoder is made the fields for codings and the length are taken away, and otherwise
nothing is. -/
theorem choose_headers (h : Headers) :
    (choose source h).headers =
      if (choose source h).found then (h.remove contentEncoding).remove contentLength else h := by
  unfold choose
  split
  · rfl
  · split
    · rfl
    · split <;> rfl

/-- The decoder is the one for the coding that is named. -/
theorem choose_of_found {h : Headers} {encoding : String} {d : δ}
    (hnamed : Listener.namedCoding h = some encoding) (hid : encoding ≠ "identity")
    (hsource : source encoding = some d) :
    (choose source h).asked = some encoding ∧ (choose source h).found = true ∧
      (choose source h).coding = .decoding encoding d := by
  unfold choose
  simp [hnamed, hid, hsource]

/-- Whatever field is taken away, the coding that it names is undone, unless the codings of the
body are half known. -/
theorem undoes_lost_iff (h : Headers) :
    (∀ f ∈ h.fields, f.isNamed contentEncoding → f ∉ (choose source h).headers.fields →
        (choose source h).Undoes f) ↔ ¬IsHalfKnown source h := by
  constructor
  · rintro hundone ⟨encoding, d, hnamed, hid, hsource, f, hf, hname, hother, hplain⟩
    obtain ⟨hasked, hfound, -⟩ := choose_of_found source hnamed hid hsource
    have hlost : f ∉ (choose source h).headers.fields := by
      rw [choose_headers, if_pos hfound, Headers.mem_remove, Headers.mem_remove]
      simp [hname]
    obtain ⟨other, hcoding, rfl | ⟨-, hsame⟩⟩ := hundone f hf hname hlost
    · exact hplain hcoding
    · exact hother (hcoding.trans (hsame.symm.trans hasked))
  · intro hknown f hf hname hlost
    rw [choose_headers] at hlost
    split at hlost
    case isFalse => exact absurd hf hlost
    case isTrue hfound =>
      obtain ⟨encoding, d, hnamed, hid, hsource⟩ := (choose_found_iff source h).mp hfound
      obtain ⟨hasked, -, -⟩ := choose_of_found source hnamed hid hsource
      by_cases hsame : f.coding? = some encoding
      · exact ⟨encoding, hsame, .inr ⟨hfound, hasked⟩⟩
      · refine ⟨"identity", not_not.mp fun hplain => hknown ?_, .inl rfl⟩
        exact ⟨encoding, d, hnamed, hid, hsource, f, hf, hname, hsame, hplain⟩

end Coding

namespace Listener

variable {δ : Type} [Decoder δ]

/-- The first headers of a stream are handed on whole unless a decoder is made for the coding that
the first field for it names.  Then they lose every such field and the length, and the body is
decoded by that one decoder.  So the coding of each lost field is undone, unless there is a decoder
for what the first field names and another field names something else. -/
theorem undoes_lost_codings_iff (l : Listener δ) {s : StreamId} (hnew : ¬l.Remembers s)
    (h : Headers) (prio : Option Priority) (pad : UInt8) (ends : Bool) :
    let r := l.process (.headers s h prio pad ends)
    ∃ kept, r.frames = [.headers s kept prio pad ends] ∧
      kept = (if r.found then (h.remove contentEncoding).remove contentLength else h) ∧
      (r.found → ∃ f encoding d, h.fields.find? (·.isNamed contentEncoding) = some f ∧
        f.coding? = some encoding ∧ encoding ≠ "identity" ∧ r.asked = some encoding ∧
        l.source encoding = some d ∧
        (ends = false → r.listener.coding? s = some (.decoding encoding d))) ∧
      ((∀ f ∈ h.fields, f.isNamed contentEncoding → f ∉ kept.fields →
          ∃ encoding, f.coding? = some encoding ∧
            (encoding = "identity" ∨ r.found ∧ r.asked = some encoding)) ↔
        ¬Coding.IsHalfKnown l.source h) := by
  have hfresh : l.coding? s = none := by simpa [remembers_iff] using hnew
  rw [process_first_headers hfresh, begin_eq]
  refine ⟨_, rfl, Coding.choose_headers l.source h, fun hfound => ?_,
    Coding.undoes_lost_iff l.source h⟩
  obtain ⟨encoding, d, hnamed, hid, hsource⟩ := (Coding.choose_found_iff l.source h).mp hfound
  obtain ⟨hasked, -, hcoding⟩ := Coding.choose_of_found l.source hnamed hid hsource
  obtain ⟨f, hf, hencoding⟩ := Option.bind_eq_some_iff.mp ((namedCoding_eq h).symm.trans hnamed)
  refine ⟨f, encoding, d, hf, hencoding, hid, hasked, hsource, ?_⟩
  rintro rfl
  simp [hcoding]

/-- A body that is coded twice, as its headers say in two fields. -/
def twiceCoded : Headers :=
  (Headers.empty.insert (Bytes.ofText "content-encoding") (Bytes.ofText "x-upper")).insert
    (Bytes.ofText "Content-Encoding") (Bytes.ofText "br")

/-- The codings of a body that is coded twice are half known. -/
theorem isHalfKnown_twiceCoded : Coding.IsHalfKnown ToyDecoder.ofTestCoding twiceCoded :=
  ⟨"x-upper", .upper, by decide +kernel, by decide, rfl,
    ⟨Bytes.ofText "Content-Encoding", Bytes.ofText "br"⟩, by decide +kernel⟩

/-- Of a body that is coded twice a field is lost without its coding being undone. -/
theorem undoes_lost_codings_twiceCoded :
    let l := ofSource ToyDecoder.ofTestCoding
    let r := l.process (.headers (.ofNat 1) twiceCoded none 0 false)
    ¬l.Remembers (.ofNat 1) ∧ ∃ kept, r.frames = [.headers (.ofNat 1) kept none 0 false] ∧
      ¬∀ f ∈ twiceCoded.fields, f.isNamed contentEncoding → f ∉ kept.fields →
        ∃ encoding, f.coding? = some encoding ∧
          (encoding = "identity" ∨ r.found ∧ r.asked = some encoding) := by
  intro l r
  have hnew : ¬l.Remembers (.ofNat 1) := nofun
  obtain ⟨kept, hframes, -, -, hundone⟩ := undoes_lost_codings_iff l hnew twiceCoded none 0 false
  exact ⟨hnew, kept, hframes, fun hall => hundone.mp hall isHalfKnown_twiceCoded⟩

/-- Not every field that is lost names a coding that was undone: here a further coding is lost with
the one for which there is a decoder. -/
theorem further_coding_lost :
    let r := (ofSource ToyDecoder.ofTestCoding).process
      (.headers (.ofNat 1) twiceCoded none 0 false)
    ¬∀ kept, r.frames = [.headers (.ofNat 1) kept none 0 false] →
      ∀ f ∈ twiceCoded.fields, f.isNamed contentEncoding → f ∉ kept.fields →
        f.coding? = some "identity" ∨ r.found ∧ f.coding? = r.asked := by
  intro r hall
  have hundone := hall .empty (by decide +kernel)
    ⟨Bytes.ofText "Content-Encoding", Bytes.ofText "br"⟩ (by decide +kernel) (by decide +kernel)
    List.not_mem_nil
  exact absurd hundone (by decide +kernel)

end Listener

end FrameBridge
