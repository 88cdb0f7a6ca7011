import FrameBridge.Proofs.Listening.Share

/-!
# Streams do not meddle with each other

Whatever else a listener hears in between, a stream gets what it would get from a listener that
hears of nothing but this stream.  Both runs are read as runs of the stream's own machine, which
never sees the rest.
-/

namespace FrameBridge

/-- Whether it is a stream that is spoken of. -/
def Heard.isAbout (s : StreamId) (h : Heard) : Bool := h.stream? == some s

theorem Heard.isAbout_iff {s : StreamId} {h : Heard} : h.isAbout s = true ↔ h.stream? = some s :=
  beq_iff_eq

namespace Coding

variable {δ : Type} [Decoder δ]

/-- All that is made of what is about one stream, and what is known of its body in the end. -/
def hears (source : DecoderSource δ) (known : Option (Coding δ)) :
    List Heard → List (Heard × Listener.Reply) × Option (Coding δ)
  | [] => ([], known)
  | h :: heard =>
      let r := hear source known h
      let rest := hears source r.2 heard
      ((h, r.1) :: rest.1, rest.2)

end Coding

namespace Listener

variable {δ : Type} [Decoder δ]

/-- A run of a listener is, for each stream, a run of the stream's own machine over what is about
the stream. -/
theorem hears_about (l : Listener δ) (s : StreamId) (heard : List Heard) :
    ((l.replies heard).filter (fun x => x.1.isAbout s), (l.after heard).coding? s) =
      Coding.hears l.source (l.coding? s) (heard.filter (Heard.isAbout s)) := by
  induction heard generalizing l with
  | nil => rfl
  | cons h heard ih =>
      have hrest := ih (l.next h)
      rw [source_next] at hrest
      by_cases hs : h.stream? = some s
      · have habout : h.isAbout s = true := Heard.isAbout_iff.mpr hs
        have hhear := l.hear_about hs
        rw [List.filter_cons_of_pos habout, Coding.hears, ← hhear]
        simp only [replies, after, List.foldl_cons, List.filter_cons, habout, if_true, ← hrest]
      · have habout : ¬h.isAbout s = true := fun ht => hs (Heard.isAbout_iff.mp ht)
        rw [coding?_next_of_ne l hs] at hrest
        rw [List.filter_cons_of_neg habout, ← hrest]
        simp only [replies, after, List.foldl_cons, List.filter_cons, habout, if_false,
          Bool.false_eq_true]

theorem map_fst_replies (heard : List Heard) (l : Listener δ) :
    (l.replies heard).map Prod.fst = heard := by
  induction heard generalizing l with
  | nil => rfl
  | cons h heard ih => rw [replies, List.map_cons, ih]

/-- A listener that hears of one stream only is the stream's machine. -/
theorem hears_alone {s : StreamId} {heard : List Heard} (l : Listener δ)
    (hs : ∀ h ∈ heard, h.isAbout s) :
    (l.replies heard, (l.after heard).coding? s) =
      Coding.hears l.source (l.coding? s) heard := by
  have hall : ∀ x ∈ l.replies heard, x.1.isAbout s := by
    intro x hx
    have hfst : x.1 ∈ (l.replies heard).map Prod.fst := List.mem_map_of_mem hx
    rw [map_fst_replies] at hfst
    exact hs x.1 hfst
  have hrun := l.hears_about s heard
  rwa [List.filter_eq_self.mpr hall, List.filter_eq_self.mpr hs] at hrun

/-- What is not about a stream is answered by nothing that is about it. -/
theorem isSilentOn_replies (s : StreamId) (heard : List Heard) (l : Listener δ) :
    ∀ x ∈ l.replies heard, ¬x.1.isAbout s → x.2.IsSilentOn s := by
  induction heard generalizing l with
  | nil => exact fun _ hx => absurd hx List.not_mem_nil
  | cons h heard ih =>
      rintro x (_ | ⟨_, hx⟩) hne
      · exact l.isSilentOn_reply fun hs => hne (Heard.isAbout_iff.mpr hs)
      · exact ih (l.next h) x hx hne

/-- The frames and errors for a stream, and what is known of its body in the end, are those of a
listener that is as fresh and hears of nothing else, whatever the other listener hears of other
streams and of the connection, and in whatever order it hears it. -/
theorem streams_apart (source : DecoderSource δ) (heard : List Heard) (s : StreamId) :
    (((ofSource source).replies heard).filter (fun x => x.1.isAbout s) =
        (ofSource source).replies (heard.filter (Heard.isAbout s))) ∧
      (∀ x ∈ (ofSource source).replies heard, ¬x.1.isAbout s → x.2.IsSilentOn s) ∧
      ((ofSource source).after heard).coding? s =
        ((ofSource source).after (heard.filter (Heard.isAbout s))).coding? s := by
  have hwhole := (ofSource source).hears_about s heard
  have hfilter : ∀ h ∈ heard.filter (Heard.isAbout s), h.isAbout s :=
    fun h hh => (List.mem_filter.mp hh).2
  have halone := (ofSource source).hears_alone hfilter
  obtain ⟨hreplies, hcoding⟩ := Prod.ext_iff.mp (hwhole.trans halone.symm)
  exact ⟨hreplies, isSilentOn_replies s heard _, hcoding⟩

end Listener

end FrameBridge
