import FrameBridge.Decoding.Hearing

/-!
# Each stream's share of a listener

A listener keeps what it knows of each stream by itself: it is one small machine for each stream,
side by side.  The machine of a stream is what `Coding.hear` says, and `Listener.hear_about` and
`Listener.coding?_next_of_ne` say that there is nothing else to a listener.
-/

namespace FrameBridge

/-- Nothing in the reply is about a stream. -/
def Listener.Reply.IsSilentOn (r : Listener.Reply) (s : StreamId) : Prop :=
  (∀ f ∈ r.frames, f.named? ≠ some s) ∧ ∀ e ∈ r.error, e.stream? ≠ some s

namespace Coding

variable {δ : Type}

/-- What the first headers of a stream settle: how its body is coded, the headers to hand on, and
what the source of decoders was asked for. -/
structure Choice (δ : Type) where
  coding : Coding δ := .identity
  headers : Headers
  asked : Option String := none
  found : Bool := false

/-- A decoder is looked for unless the headers name no coding or none that changes anything. -/
def choose (source : DecoderSource δ) (h : Headers) : Choice δ :=
  match Listener.namedCoding h with
  | none => { headers := h }
  | some encoding =>
      if encoding = "identity" then { headers := h }
      else
        match source encoding with
        | none => { headers := h, asked := some encoding }
        | some d =>
            { coding := .decoding encoding d
              headers := (h.remove contentEncoding).remove contentLength
              asked := some encoding
              found := true }

/-- A body is left as it is, or a decoder is made for it and its making is told. -/
theorem choose_cases (source : DecoderSource δ) (h : Headers) :
    ((choose source h).coding = .identity ∧ (choose source h).found = false) ∨
      ∃ encoding d, source encoding = some d ∧ (choose source h).coding = .decoding encoding d ∧
        (choose source h).asked = some encoding ∧ (choose source h).found = true := by
  unfold choose
  cases Listener.namedCoding h with
  | none => exact .inl ⟨rfl, by simp⟩
  | some encoding =>
      by_cases hid : encoding = "identity"
      · simp [hid]
      · cases hsource : source encoding with
        | none => simp [hid, hsource]
        | some d => exact .inr ⟨encoding, d, hsource, by simp [hid, hsource]⟩

variable [Decoder δ]

/-- What is made of something that is about a stream, when this is known of its body. -/
def hear (source : DecoderSource δ) (known : Option (Coding δ)) (h : Heard) :
    Listener.Reply × Option (Coding δ) :=
  match h, known with
  | .closed _, _ => ({}, none)
  | .frame (.reset s code), _ => ({ frames := [.reset s code] }, none)
  | .frame (.headers s h prio pad ends), none =>
      let c := choose source h
      ({ frames := [.headers s c.headers prio pad ends], asked := c.asked, found := c.found },
        if ends then none else some c.coding)
  | .frame (.headers s h prio pad true), some (.decoding encoding d) =>
      match Decoder.finish d with
      | .ok tail =>
          ({ frames := Listener.tailFrame s tail ++ [.headers s h prio pad true] }, none)
      | .error e => ({ error := some (Listener.failure s encoding e) }, none)
  | .frame (.headers s h prio pad ends), known =>
      ({ frames := [.headers s h prio pad ends] }, if ends then none else known)
  | .frame (.data s x pad ends window), some (.decoding encoding d) =>
      match Decoder.feedLast d x ends with
      | .ok (out, d) =>
          ({ frames := [.data s out pad ends window] },
            if ends then none else some (.decoding encoding d))
      | .error e => ({ error := some (Listener.failure s encoding e) }, none)
  | .frame (.data s x pad ends window), known =>
      ({ frames := [.data s x pad ends window] }, if ends then none else known)
  | .frame f, known => ({ frames := [f] }, known)

/-- Nothing is known of a stream that is over. -/
theorem hear_of_last (source : DecoderSource δ) (known : Option (Coding δ)) {h : Heard}
    (hlast : h.isLast) : (hear source known h).2 = none := by
  unfold hear
  split <;> try split
  all_goals simp_all [Heard.isLast]

/-- A body that no decoder is there for is handed on as it came. -/
theorem hear_data_raw (source : DecoderSource δ) {known : Option (Coding δ)}
    (hraw : ∀ encoding d, known ≠ some (.decoding encoding d)) (s : StreamId) (x : Bytes)
    (pad : UInt8) (ends : Bool) (window : UInt32) :
    hear source known (.frame (.data s x pad ends window)) =
      ({ frames := [.data s x pad ends window] }, if ends then none else known) := by
  cases known with
  | none => rfl
  | some c =>
      cases c with
      | identity => rfl
      | decoding encoding d => exact absurd rfl (hraw encoding d)

/-- What is made of something about a stream is about that stream. -/
theorem hear_about_stream (source : DecoderSource δ) (known : Option (Coding δ)) {h : Heard}
    {s : StreamId} (hs : h.stream? = some s) :
    (∀ f ∈ (hear source known h).1.frames, f.named? = some s) ∧
      ∀ e ∈ (hear source known h).1.error, e.stream? = some s := by
  have htail (tail : Bytes) : ∀ f ∈ Listener.tailFrame s tail, f.named? = some s := by
    intro f hf
    unfold Listener.tailFrame at hf
    split at hf
    · cases hf
    · obtain rfl := List.mem_singleton.mp hf
      rfl
  unfold hear
  split <;> try split
  all_goals
    simp_all only [Heard.stream?, Frame.named?, Option.some.injEq, List.mem_cons, List.mem_append,
      List.not_mem_nil, or_false, reduceCtorEq, Option.mem_def, forall_eq',
      Listener.failure, ProtocolError.stream?, false_imp_iff, implies_true, and_true]
  rintro f (hf | rfl)
  · exact htail _ f hf
  · rfl

end Coding

namespace Listener

variable {δ : Type}

@[simp] theorem coding?_streamClosed (l : Listener δ) (s x : StreamId) :
    (l.streamClosed s).coding? x = if x = s then none else l.coding? x :=
  StreamMap.get?_erase l.streams s x

@[simp] theorem coding?_insert (l : Listener δ) (s x : StreamId) (c : Coding δ) :
    coding? { l with streams := l.streams.insert s c } x =
      if x = s then some c else l.coding? x :=
  StreamMap.get?_insert l.streams s x c

theorem coding?_eq (l : Listener δ) (s : StreamId) : l.streams.get? s = l.coding? s := rfl

theorem isSome_coding? (l : Listener δ) (s : StreamId) :
    l.streams.contains s = (l.coding? s).isSome := rfl

/-- First headers are handed on as the source of decoders has it. -/
theorem begin_eq (l : Listener δ) (s : StreamId) (h : Headers) (prio : Option Priority)
    (pad : UInt8) (ends : Bool) :
    l.begin s h prio pad ends =
      { listener :=
          if ends then l
          else { l with streams := l.streams.insert s (Coding.choose l.source h).coding }
        frames := [.headers s (Coding.choose l.source h).headers prio pad ends]
        asked := (Coding.choose l.source h).asked
        found := (Coding.choose l.source h).found } := by
  unfold begin Coding.choose
  cases namedCoding h with
  | none => rfl
  | some encoding =>
      by_cases hid : encoding = "identity"
      · simp only [hid, if_true]
      · simp only [hid, if_false]
        cases l.source encoding <;> rfl

variable [Decoder δ]

/-! ### What is about the stream -/

theorem process_first_headers {l : Listener δ} {s : StreamId} (hnew : l.coding? s = none)
    (h : Headers) (prio : Option Priority) (pad : UInt8) (ends : Bool) :
    l.process (.headers s h prio pad ends) = l.begin s h prio pad ends := by
  simp only [process, isSome_coding?, hnew, Option.isSome_none, Bool.false_eq_true, if_false]

theorem process_more_headers {l : Listener δ} {s : StreamId} {c : Coding δ}
    (hknown : l.coding? s = some c) (h : Headers) (prio : Option Priority) (pad : UInt8)
    (ends : Bool) :
    l.process (.headers s h prio pad ends) =
      if ends then l.endWithTrailers s (.headers s h prio pad ends)
      else { listener := l, frames := [.headers s h prio pad ends] } := by
  simp only [process, isSome_coding?, hknown, Option.isSome_some, if_true]

theorem hear_headers (l : Listener δ) (s : StreamId) (h : Headers) (prio : Option Priority)
    (pad : UInt8) (ends : Bool) :
    ((l.process (.headers s h prio pad ends)).reply,
        (l.process (.headers s h prio pad ends)).listener.coding? s) =
      Coding.hear l.source (l.coding? s) (.frame (.headers s h prio pad ends)) := by
  cases hknown : l.coding? s with
  | none =>
      rw [process_first_headers hknown, begin_eq]
      cases ends <;> simp [Processed.reply, Coding.hear, hknown]
  | some c =>
      rw [process_more_headers hknown]
      cases ends with
      | false => cases c <;> simp [Processed.reply, Coding.hear, hknown]
      | true =>
          simp only [if_true, endWithTrailers, coding?_eq, hknown]
          cases c with
          | identity => simp [Processed.reply, Coding.hear]
          | decoding encoding d =>
              simp only [Coding.hear]
              cases Decoder.finish d <;> simp [Processed.reply]

theorem hear_data (l : Listener δ) (s : StreamId) (x : Bytes) (pad : UInt8) (ends : Bool)
    (window : UInt32) :
    ((l.process (.data s x pad ends window)).reply,
        (l.process (.data s x pad ends window)).listener.coding? s) =
      Coding.hear l.source (l.coding? s) (.frame (.data s x pad ends window)) := by
  simp only [process, body, coding?_eq]
  cases hknown : l.coding? s with
  | none => cases ends <;> simp [Processed.reply, Coding.hear, hknown]
  | some c =>
      cases c with
      | identity => cases ends <;> simp [Processed.reply, Coding.hear, hknown]
      | decoding encoding d =>
          simp only [Coding.hear]
          cases Decoder.feedLast d x ends with
          | ok r => cases ends <;> simp [Processed.reply, coding?, StreamMap.get?_erase]
          | error e => simp [Processed.reply]

/-- What a listener makes of something that is about a stream is what the stream's own machine
makes of it. -/
theorem hear_about (l : Listener δ) {h : Heard} {s : StreamId} (hs : h.stream? = some s) :
    (l.reply h, (l.next h).coding? s) = Coding.hear l.source (l.coding? s) h := by
  cases h with
  | closed x =>
      obtain rfl : x = s := Option.some.inj hs
      simp [reply, next, Coding.hear]
  | frame f =>
      cases f with
      | headers x h prio pad ends =>
          obtain rfl : x = s := Option.some.inj hs
          exact l.hear_headers x h prio pad ends
      | data x d pad ends window =>
          obtain rfl : x = s := Option.some.inj hs
          exact l.hear_data x d pad ends window
      | reset x code =>
          obtain rfl : x = s := Option.some.inj hs
          simp [reply, next, process, Processed.reply, Coding.hear]
      | _ => rfl

theorem reply_of_about (l : Listener δ) {h : Heard} {s : StreamId} (hs : h.stream? = some s) :
    l.reply h = (Coding.hear l.source (l.coding? s) h).1 :=
  congrArg Prod.fst (l.hear_about hs)

theorem coding?_next_of_about (l : Listener δ) {h : Heard} {s : StreamId}
    (hs : h.stream? = some s) :
    (l.next h).coding? s = (Coding.hear l.source (l.coding? s) h).2 :=
  congrArg Prod.snd (l.hear_about hs)

/-! ### What is about others -/

/-- Hearing something forgets a stream that is spoken of, or remembers something of it, or changes
nothing. -/
theorem next_cases (l : Listener δ) (h : Heard) :
    l.next h = l ∨ ∃ s, h.stream? = some s ∧ (l.next h = l.streamClosed s ∨
      ∃ c, l.next h = { l with streams := l.streams.insert s c }) := by
  cases h with
  | closed s => exact .inr ⟨s, rfl, .inl rfl⟩
  | frame f =>
      cases f with
      | headers s h prio pad ends =>
          simp only [next, process]
          split
          · cases ends with
            | false => exact .inl rfl
            | true =>
                refine .inr ⟨s, rfl, .inl ?_⟩
                simp only [if_true, endWithTrailers]
                split
                · split <;> rfl
                · rfl
          · rw [begin_eq]
            cases ends with
            | false => exact .inr ⟨s, rfl, .inr ⟨_, rfl⟩⟩
            | true => exact .inl rfl
      | data s d pad ends window =>
          simp only [next, process, body]
          split
          · split
            · cases ends with
              | false => exact .inr ⟨s, rfl, .inr ⟨_, rfl⟩⟩
              | true => exact .inr ⟨s, rfl, .inl rfl⟩
            · exact .inr ⟨s, rfl, .inl rfl⟩
          · cases ends with
            | false => exact .inl rfl
            | true => exact .inr ⟨s, rfl, .inl rfl⟩
      | reset s code => exact .inr ⟨s, rfl, .inl rfl⟩
      | _ => exact .inl rfl

@[simp] theorem source_next (l : Listener δ) (h : Heard) : (l.next h).source = l.source := by
  rcases l.next_cases h with hsame | ⟨s, -, hclosed | ⟨c, hc⟩⟩
  · rw [hsame]
  · rw [hclosed]
    rfl
  · rw [hc]

/-- What is about other streams, or about none, changes nothing of what is known of a stream. -/
theorem coding?_next_of_ne (l : Listener δ) {h : Heard} {s : StreamId} (hs : h.stream? ≠ some s) :
    (l.next h).coding? s = l.coding? s := by
  rcases l.next_cases h with hsame | ⟨x, hx, hnext⟩
  · rw [hsame]
  · have hne : s ≠ x := by
      rintro rfl
      exact hs hx
    rcases hnext with hclosed | ⟨c, hc⟩
    · rw [hclosed, coding?_streamClosed, if_neg hne]
    · rw [hc, coding?_insert, if_neg hne]

/-- Nothing leaves a listener that is not about what was spoken of. -/
theorem reply_about (l : Listener δ) (h : Heard) :
    (∀ f ∈ (l.reply h).frames, f.named? = h.stream?) ∧
      ∀ e ∈ (l.reply h).error, e.stream? = h.stream? := by
  cases hs : h.stream? with
  | none =>
      cases h with
      | closed s => cases hs
      | frame f =>
          have hf : f.named? = none := hs
          cases f <;> simp [Frame.named?] at hf <;>
            simp [reply, process, Processed.reply, Frame.named?]
  | some s =>
      rw [l.reply_of_about hs]
      exact Coding.hear_about_stream l.source (l.coding? s) hs

/-- A reply to what is not about a stream is silent on it. -/
theorem isSilentOn_reply (l : Listener δ) {h : Heard} {s : StreamId} (hs : h.stream? ≠ some s) :
    (l.reply h).IsSilentOn s := by
  obtain ⟨hframes, herror⟩ := l.reply_about h
  exact ⟨fun f hf => hframes f hf ▸ hs, fun e he => herror e he ▸ hs⟩

end Listener

end FrameBridge
