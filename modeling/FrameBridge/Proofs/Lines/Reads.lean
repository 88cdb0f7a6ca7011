import FrameBridge.Loop.EventLoop
import FrameBridge.Rehearsal.LineCodec
import Mathlib.Data.List.DropRight

/-!
# Lines that come in pieces

What a transport brings goes behind what a buffer holds, and after each read the codec takes what
it can make use of off the front.  So a loop does it (`EventLoop.data_takeInput`).  Reads may end
anywhere: within a line, within a character, or among blanks.

A codec of lines takes whole lines only, and leaves the start of the next line as it is.  So two
reads bring about the same as one (`LineCodec.receive_append`), and however the input is cut it is
decoded as if it had come in one piece (`LineCodec.decodes_however_cut`).
-/

namespace FrameBridge

/-- A codec behind a buffer, and what was made of the input so far. -/
structure Intake (κ : Type) where
  codec : κ
  buffer : Bytes := []
  events : List Event := []
  /-- The octets that were taken off the buffer. -/
  taken : Bytes := []

/-- Octets are read and decoded. -/
def Intake.receive {κ : Type} [Codec κ] (i : Intake κ) (read : Bytes) : Intake κ :=
  let held := i.buffer ++ read
  let step := Codec.decode i.codec held
  { codec := step.codec
    buffer := step.result.rest
    events := i.events ++ step.result.events
    taken := i.taken ++ held.take (held.length - step.result.rest.length) }

/-! ### The reads of a loop -/

namespace EventLoop

variable {κ σ δ τ : Type}

theorem buffer_resume [Transport τ] (l : EventLoop κ σ δ τ) (r : Run (Turn κ σ δ))
    {next : EventLoop κ σ δ τ → EventLoop κ σ δ τ} (h : ∀ l, (next l).buffer = l.buffer) :
    (l.resume r next).buffer = l.buffer := by
  unfold resume
  simp only
  split
  · exact h _
  · unfold stop
    simp only
    split <;> rfl

variable [Transport τ] [Codec κ] [Connection σ] [Decoder δ]

theorem buffer_leave (rounds : Nat) (l : EventLoop κ σ δ τ) :
    (l.leave rounds).buffer = l.buffer := by
  have hfinish : ∀ l : EventLoop κ σ δ τ, l.finish.buffer = l.buffer := fun _ => rfl
  refine (buffer_resume _ _ hfinish).trans ?_
  unfold shutTransport
  split <;> rfl

theorem buffer_deliver (rounds : Nat) (l : EventLoop κ σ δ τ) :
    (l.deliver rounds).buffer = l.buffer := by
  unfold deliver afterDelivery
  simp only
  split
  · split
    · exact buffer_leave rounds _
    · rfl
  · rfl

/-- A loop that read something holds in its buffer what its codec left. -/
theorem data_takeInput (rounds now : Nat) (l : EventLoop κ σ δ τ) (xs : Bytes) :
    (l.takeInput rounds now xs).buffer.data =
      (Intake.receive ⟨l.turn.bridge.codec, l.buffer.data, [], []⟩ xs).buffer := by
  unfold takeInput
  rw [buffer_resume _ _ (buffer_deliver rounds)]
  unfold ReadBuffer.consume
  simp only
  split <;> rfl

end EventLoop

namespace LineCodec

/-! ### Lines -/

/-- Octets without an end of a line belong to the line that has begun. -/
theorem splitLines_append_of_not_mem {xs : Bytes} (h : 0x0a ∉ xs) (line ys : Bytes) :
    splitLines line (xs ++ ys) = splitLines (xs.reverse ++ line) ys := by
  induction xs generalizing line with
  | nil => rfl
  | cons x xs ih =>
      have hx : x ≠ 0x0a := fun heq => h (heq ▸ List.mem_cons_self)
      have hxs : 0x0a ∉ xs := fun hmem => h (List.mem_cons_of_mem x hmem)
      simp only [List.cons_append, splitLines, hx, if_false, ih hxs, List.reverse_cons,
        List.append_assoc, List.nil_append]

/-- It does not matter whether the start of a line was seen before or comes again. -/
theorem splitLines_eq_nil {line : Bytes} (h : 0x0a ∉ line) (xs : Bytes) :
    splitLines line xs = splitLines [] (line.reverse ++ xs) := by
  have hreverse : 0x0a ∉ line.reverse := by rwa [List.mem_reverse]
  rw [splitLines_append_of_not_mem hreverse, List.reverse_reverse, List.append_nil]

/-- What is left of one piece is split together with the next piece. -/
theorem splitLines_append {line : Bytes} (h : 0x0a ∉ line) (xs ys : Bytes) :
    splitLines line (xs ++ ys) =
      ((splitLines line xs).1 ++ (splitLines [] ((splitLines line xs).2 ++ ys)).1,
        (splitLines [] ((splitLines line xs).2 ++ ys)).2) := by
  induction xs generalizing line with
  | nil => exact splitLines_eq_nil h ys
  | cons b xs ih =>
      by_cases hb : b = 0x0a
      · simp only [List.cons_append, splitLines, hb, if_true, ih List.not_mem_nil]
      · have hline : 0x0a ∉ b :: line := by
          rintro (_ | ⟨_, hmem⟩)
          · exact hb rfl
          · exact h hmem
        simp only [List.cons_append, splitLines, hb, if_false, ih hline]

/-- Lines with their ends, and what is left, are all of the input. -/
theorem flatMap_splitLines (line xs : Bytes) :
    (splitLines line xs).1.flatMap (· ++ [0x0a]) ++ (splitLines line xs).2 =
      line.reverse ++ xs := by
  induction xs generalizing line with
  | nil => simp only [splitLines, List.flatMap_nil, List.nil_append, List.append_nil]
  | cons b xs ih =>
      by_cases hb : b = 0x0a
      · simp only [splitLines, hb, if_true, List.flatMap_cons, List.append_assoc, ih]
        rfl
      · simp only [splitLines, hb, if_false, ih, List.reverse_cons, List.append_assoc]
        rfl

/-- No whole line is left. -/
theorem not_mem_splitLines {line : Bytes} (h : 0x0a ∉ line) (xs : Bytes) :
    0x0a ∉ (splitLines line xs).2 := by
  induction xs generalizing line with
  | nil => rwa [splitLines, List.mem_reverse]
  | cons b xs ih =>
      by_cases hb : b = 0x0a
      · simp only [splitLines, hb, if_true]
        exact ih List.not_mem_nil
      · simp only [splitLines, hb, if_false]
        refine ih ?_
        rintro (_ | ⟨_, hmem⟩)
        · exact hb rfl
        · exact h hmem

/-- Behind whole lines the rest is what follows the last end of a line. -/
theorem rtakeWhile_lines (lines : List Bytes) {rest : Bytes} (h : 0x0a ∉ rest) :
    (lines.flatMap (· ++ [0x0a]) ++ rest).rtakeWhile (· != 0x0a) = rest := by
  induction rest using List.reverseRecOn with
  | nil =>
      rw [List.append_nil, List.rtakeWhile_eq_nil_iff]
      intro hne
      rcases List.eq_nil_or_concat lines with rfl | ⟨init, last, rfl⟩
      · exact absurd rfl hne
      · simp
  | append_singleton rest b ih =>
      have hb : b ≠ 0x0a := fun heq => h (List.mem_append_right rest (heq ▸ List.mem_cons_self))
      have hrest : 0x0a ∉ rest := fun hmem => h (List.mem_append_left [b] hmem)
      rw [← List.append_assoc, List.rtakeWhile_concat_pos _ _ _ (by simpa using hb), ih hrest]

/-- What is left is what follows the last end of a line. -/
theorem splitLines_snd (xs : Bytes) : (splitLines [] xs).2 = xs.rtakeWhile (· != 0x0a) := by
  have hlines := rtakeWhile_lines (splitLines [] xs).1 (not_mem_splitLines List.not_mem_nil xs)
  rw [flatMap_splitLines] at hlines
  exact hlines.symm

/-! ### Decoding -/

theorem readLines_append (c : LineCodec) (ls ms : List Bytes) :
    c.readLines (ls ++ ms) =
      ((c.readLines ls).1 ++ ((c.readLines ls).2.readLines ms).1,
        ((c.readLines ls).2.readLines ms).2) := by
  induction ls generalizing c with
  | nil => rfl
  | cons l ls ih =>
      simp only [List.cons_append, readLines]
      split
      · exact ih c
      · simp only [ih, List.cons_append]

theorem scripted_readLine (c : LineCodec) (text : List Char) :
    (c.readLine text).2.scripted = c.scripted := by
  unfold readLine
  simp only
  split <;> rfl

theorem scripted_readLines (c : LineCodec) (ls : List Bytes) :
    (c.readLines ls).2.scripted = c.scripted := by
  induction ls generalizing c with
  | nil => rfl
  | cons l ls ih =>
      simp only [readLines]
      split
      · exact ih c
      · exact (ih _).trans (c.scripted_readLine _)

/-- Input in two pieces: what is left of the first is decoded together with the second. -/
theorem decode_append (c : LineCodec) (xs ys : Bytes) :
    (c.decode (xs ++ ys)).codec =
        ((c.decode xs).codec.decode ((c.decode xs).result.rest ++ ys)).codec ∧
      (c.decode (xs ++ ys)).result.events = (c.decode xs).result.events ++
        ((c.decode xs).codec.decode ((c.decode xs).result.rest ++ ys)).result.events := by
  have hsplit := splitLines_append List.not_mem_nil xs ys
  -- The events that the codec was told to report come with the first piece only.
  have hscripted : (({ c with scripted := [] }).readLines (splitLines [] xs).1).2.scripted = [] :=
    scripted_readLines _ _
  simp only [decode, hsplit, readLines_append]
  generalize ({ c with scripted := [] } : LineCodec).readLines (splitLines [] xs).1 = read
    at hscripted
  obtain ⟨events, c'⟩ := read
  have hnone : c'.scripted = [] := hscripted
  have hsame : { c' with scripted := [] } = c' := by
    cases c'
    cases hnone
    rfl
  simp only [hsame, hnone, List.nil_append, List.append_assoc, and_self]

theorem rest_decode (c : LineCodec) (held : Bytes) :
    (c.decode held).result.rest = held.rtakeWhile (· != 0x0a) :=
  splitLines_snd held

/-- The front that a call takes off the buffer ends with the last end of a line. -/
theorem take_decode (c : LineCodec) (held : Bytes) :
    held.take (held.length - (c.decode held).result.rest.length) =
      held.rdropWhile (· != 0x0a) := by
  have hall := List.rdropWhile_append_rtakeWhile (p := (· != 0x0a)) (l := held)
  have hlength := congrArg List.length hall
  rw [List.length_append] at hlength
  rw [rest_decode, ← hlength, Nat.add_sub_cancel]
  exact (congrArg (List.take _) hall).symm.trans List.take_left

/-! ### Reads -/

/-- The end of two pieces can be read off the end of the first and the second. -/
theorem rtakeWhile_rtakeWhile_append (p : UInt8 → Bool) (xs ys : Bytes) :
    (xs.rtakeWhile p ++ ys).rtakeWhile p = (xs ++ ys).rtakeWhile p := by
  induction ys using List.reverseRecOn with
  | nil => rw [List.append_nil, List.append_nil, List.rtakeWhile_idempotent]
  | append_singleton ys b ih =>
      rw [← List.append_assoc, ← List.append_assoc, List.rtakeWhile_concat, List.rtakeWhile_concat,
        ih]

/-- The front of the first piece, and that of its end with the second piece, are the front of
both. -/
theorem rdropWhile_append_rdropWhile (p : UInt8 → Bool) (xs ys : Bytes) :
    xs.rdropWhile p ++ (xs.rtakeWhile p ++ ys).rdropWhile p = (xs ++ ys).rdropWhile p := by
  refine (List.append_left_inj ((xs ++ ys).rtakeWhile p)).mp ?_
  calc xs.rdropWhile p ++ (xs.rtakeWhile p ++ ys).rdropWhile p ++ (xs ++ ys).rtakeWhile p
      = xs.rdropWhile p ++ (xs.rtakeWhile p ++ ys) := by
        rw [← rtakeWhile_rtakeWhile_append, List.append_assoc, List.rdropWhile_append_rtakeWhile]
    _ = xs ++ ys := by rw [← List.append_assoc, List.rdropWhile_append_rtakeWhile]
    _ = (xs ++ ys).rdropWhile p ++ (xs ++ ys).rtakeWhile p :=
        List.rdropWhile_append_rtakeWhile.symm

/-- Octets are read: whole lines are decoded and taken off the buffer. -/
theorem receive_eq (i : Intake LineCodec) (read : Bytes) :
    i.receive read =
      { codec := (i.codec.decode (i.buffer ++ read)).codec
        buffer := (i.buffer ++ read).rtakeWhile (· != 0x0a)
        events := i.events ++ (i.codec.decode (i.buffer ++ read)).result.events
        taken := i.taken ++ (i.buffer ++ read).rdropWhile (· != 0x0a) } := by
  rw [← take_decode i.codec, ← rest_decode i.codec]
  rfl

/-- Two reads bring about the same as one. -/
theorem receive_append (i : Intake LineCodec) (xs ys : Bytes) :
    (i.receive xs).receive ys = i.receive (xs ++ ys) := by
  obtain ⟨hcodec, hevents⟩ := i.codec.decode_append (i.buffer ++ xs) ys
  have hbuffer := rtakeWhile_rtakeWhile_append (· != 0x0a) (i.buffer ++ xs) ys
  have htaken := rdropWhile_append_rdropWhile (· != 0x0a) (i.buffer ++ xs) ys
  rw [rest_decode] at hcodec hevents
  rw [receive_eq i xs, receive_eq _ ys, receive_eq i, ← List.append_assoc, hcodec, hevents,
    ← hbuffer, ← htaken, List.append_assoc, List.append_assoc]

/-- Reads in any number bring about the same as one. -/
theorem foldl_receive (i : Intake LineCodec) (xs : Bytes) (reads : List Bytes) :
    reads.foldl Intake.receive (i.receive xs) = i.receive (xs ++ reads.flatten) := by
  induction reads generalizing xs with
  | nil => rw [List.flatten_nil, List.append_nil, List.foldl_nil]
  | cons read reads ih =>
      rw [List.foldl_cons, receive_append, ih, List.flatten_cons, List.append_assoc]

/-- Without events of its own, a codec makes nothing of no input. -/
theorem receive_nil {c : LineCodec} (h : c.scripted = []) :
    ({ codec := c } : Intake LineCodec).receive [] = { codec := c } := by
  cases c
  cases h
  rfl

/-- However the input is cut into reads, a codec of lines makes the same of it as of the input in
one piece: the same events, the same octets left, the same streams open and the same highest stream
of the peer.  All up to the last end of a line is taken off the buffer once and in order, and
nothing behind it. -/
theorem decodes_however_cut (c : LineCodec) (hscripted : c.scripted = []) (reads : List Bytes) :
    let cut := reads.foldl Intake.receive { codec := c }
    let whole := Codec.decode c reads.flatten
    cut.events = whole.result.events ∧ cut.buffer = whole.result.rest ∧
      cut.codec.openStreams = whole.codec.openStreams ∧
      cut.codec.lastRemote = whole.codec.lastRemote ∧
      cut.taken = reads.flatten.rdropWhile (· != 0x0a) ∧
      cut.buffer = reads.flatten.rtakeWhile (· != 0x0a) := by
  have hcut : reads.foldl Intake.receive { codec := c } =
      ({ codec := c } : Intake LineCodec).receive reads.flatten := by
    -- As if nothing had been read before the first read.
    conv_lhs => rw [← receive_nil hscripted]
    rw [foldl_receive, List.nil_append]
  simp only [hcut, receive_eq, List.nil_append]
  refine ⟨rfl, ?_, rfl, rfl, trivial, trivial⟩
  exact (c.rest_decode reads.flatten).symm

/-- A line is cut within a character, and what follows the last line within a keyword. -/
theorem decodes_however_cut_within_character :
    let reads : List Bytes :=
      [Bytes.ofText "HEADERS 5\n DATA 5 caf", [0xc3], [0xa9, 0x0d, 0x0a] ++ Bytes.ofText "CLO"]
    let cut := reads.foldl Intake.receive { codec := ({} : LineCodec) }
    let path := Headers.empty.insert (Bytes.ofText ":path") (Bytes.ofText "/")
    ({} : LineCodec).scripted = [] ∧
      cut.events =
        [.frame (.headers (.ofNat 5) path (some .standard) 0 false),
          .frame (.data (.ofNat 5) (Bytes.ofText "café") 0 false 5)] ∧
      cut.buffer = Bytes.ofText "CLO" ∧
      cut.codec.openStreams.toList = [.ofNat 5] ∧
      cut.codec.lastRemote = .ofNat 5 ∧
      cut.taken.length = 25 := by
  obtain ⟨hevents, hbuffer, hopen, hlast, htaken, -⟩ := decodes_however_cut {} rfl
    [Bytes.ofText "HEADERS 5\n DATA 5 caf", [0xc3], [0xa9, 0x0d, 0x0a] ++ Bytes.ofText "CLO"]
  refine ⟨rfl, ?_, ?_, ?_, ?_, ?_⟩
  · rw [hevents]
    decide +kernel
  · rw [hbuffer]
    decide +kernel
  · rw [hopen]
    decide +kernel
  · rw [hlast]
    decide +kernel
  · rw [htaken]
    decide +kernel

end LineCodec

end FrameBridge
