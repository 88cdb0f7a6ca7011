import FrameBridge.Proofs.Issue.Tracks
import FrameBridge.Proofs.Law.Drive
import FrameBridge.Proofs.Pushes.Numbers

/-!
# One counter for many parties

All handles and writers of a bridge take the numbers of promised streams from one counter, and may
ask it which number comes next.  The counter is a word of 32 bits that moves by two, and a number
has 31 bits; so the last number is followed by a state of the counter in which nothing is left.

How the counter stands depends on one thing only, which is how many reservations were made, whether
they succeeded or not.

* `LocalStreams.IsAfter` says how it stands after `k` reservations, and
  `LocalStreams.IsAfter.answer` that a call is answered with the number of the `k`-th reservation.
* `LocalStreams.numbers_in_turn` says what parties get from a counter that they share, whatever they
  call and in whatever order.
* `Drive.reserve_run` says that this is how it stands with the counter of a bridge, whatever handles
  and writers do while the bridge runs.
-/

namespace FrameBridge

/-- The number of the reservation before which there were `k` others, if it has 31 bits. -/
def StreamId.nth? (first k : Nat) : Option StreamId :=
  if h : first + 2 * k ≤ StreamId.max.val then some ⟨first + 2 * k, Nat.lt_succ_of_le h⟩ else none

theorem StreamId.nth?_eq_some_iff {first k : Nat} {id : StreamId} :
    nth? first k = some id ↔ id.val = first + 2 * k := by
  unfold nth?
  split
  · cases id
    rw [Option.some.injEq, StreamId.mk.injEq]
    exact eq_comm
  · rename_i hgt
    have hlt : id.val ≤ StreamId.max.val := Nat.le_of_lt_succ id.lt
    refine ⟨fun hnone => ?_, fun h => absurd (h ▸ hlt) hgt⟩
    cases hnone

/-- The first number: stream 1 belongs to the peer of a server, and to the upgrade of a client that
came from one. -/
def Role.firstNumber : Role → Bool → Nat
  | .server, _ => 2
  | .client, false => 1
  | .client, true => 3

/-- What a party asks of the counter that it shares with others. -/
inductive NumberCall (ι : Type) where
  | reserve (party : ι)
  /-- It wants to know which number comes next. -/
  | peek (party : ι)

/-- What a party is told. -/
inductive NumberReply (ι : Type) where
  | reserved (party : ι) (result : Except BridgeError StreamId)
  | peeked (party : ι) (next : Option StreamId)

/-- The outcome of a reservation, if this is the next number. -/
def StreamId.reservation : Option StreamId → Except BridgeError StreamId
  | some id => .ok id
  | none => .error .streamIdsExhausted

namespace NumberCall

variable {ι : Type}

def isReserve : NumberCall ι → Bool
  | .reserve _ => true
  | .peek _ => false

/-- What the party is to be told, if this is the next number. -/
def reply : NumberCall ι → Option StreamId → NumberReply ι
  | .reserve party, next => .reserved party (StreamId.reservation next)
  | .peek party, next => .peeked party next

end NumberCall

/-- How many reservations there are among calls. -/
def reservations {ι : Type} (calls : List (NumberCall ι)) : Nat := calls.countP NumberCall.isReserve

theorem reservations_cons {ι : Type} (c : NumberCall ι) (cs : List (NumberCall ι)) :
    reservations (c :: cs) = reservations [c] + reservations cs := by
  rw [← List.singleton_append]
  exact List.countP_append

namespace NumberReply

variable {ι : Type}

/-- The outcome of a reservation. -/
def result? : NumberReply ι → Option (Except BridgeError StreamId)
  | .reserved _ r => some r
  | .peeked .. => none

/-- The number that a party now has for itself. -/
def number? : NumberReply ι → Option StreamId
  | .reserved _ (.ok id) => some id
  | .reserved _ (.error _) | .peeked .. => none

theorem number?_eq (r : NumberReply ι) : r.number? = r.result?.bind (·.toOption) := by
  rcases r with ⟨_, _ | _⟩ | _ <;> rfl

end NumberReply

namespace LocalStreams

variable {ι : Type}

/-- Answers a call. -/
def answer (l : LocalStreams) : NumberCall ι → NumberReply ι × LocalStreams
  | .reserve party => (.reserved party l.reserve.1, l.reserve.2)
  | .peek party => (.peeked party l.peek?, l)

/-- Answers calls in the order in which they come in. -/
def answerAll (l : LocalStreams) : List (NumberCall ι) → List (NumberReply ι) × LocalStreams
  | [] => ([], l)
  | c :: cs =>
      let (r, l) := l.answer c
      let (rs, l) := l.answerAll cs
      (r :: rs, l)

/-! ### How a counter stands -/

/-- The counter stands as it does after `k` reservations.  Behind the last number it stops at the
first word of its parity that has more than 31 bits. -/
def IsAfter (l : LocalStreams) (first k : Nat) : Prop :=
  l.next.toNat = min (first + 2 * k) (StreamId.max.val + 1 + first % 2)

variable {l : LocalStreams} {first k : Nat}

theorem isAfter_start (role : Role) (upgraded : Bool) :
    (start role upgraded).IsAfter (role.firstNumber upgraded) 0 := by
  cases role <;> cases upgraded <;> rfl

theorem hasNext_iff (l : LocalStreams) : l.hasNext = true ↔ l.next.toNat ≤ StreamId.max.val := by
  simp only [hasNext, decide_eq_true_eq, UInt32.le_iff_toNat_le]
  rfl

theorem peek?_of_hasNext (h : l.hasNext = true) :
    l.peek? = some ⟨l.next.toNat, Nat.lt_succ_of_le (l.hasNext_iff.mp h)⟩ := by
  simp only [peek?, h, if_true, Option.some.injEq]
  have hlt : l.next.toNat < 0x80000000 := Nat.lt_succ_of_le (l.hasNext_iff.mp h)
  exact StreamId.ofNat_val ⟨l.next.toNat, hlt⟩

/-- A reservation is answered with the number that the counter shows. -/
theorem reserve_fst (l : LocalStreams) : l.reserve.1 = StreamId.reservation l.peek? := by
  unfold reserve peek?
  split <;> rfl

namespace IsAfter

theorem hasNext_iff (h : l.IsAfter first k) :
    l.hasNext = true ↔ first + 2 * k ≤ StreamId.max.val := by
  rw [LocalStreams.hasNext_iff, h]
  omega

/-- The counter shows the number of the `k`-th reservation, with no bit of it lost. -/
theorem peek?_eq (h : l.IsAfter first k) : l.peek? = StreamId.nth? first k := by
  cases hnext : l.hasNext with
  | true =>
      have hle := h.hasNext_iff.mp hnext
      have hval : l.next.toNat = first + 2 * k := by
        rw [h]
        omega
      rw [peek?_of_hasNext hnext, StreamId.nth?, dif_pos hle]
      simp only [hval]
  | false =>
      have hgt : ¬ first + 2 * k ≤ StreamId.max.val := fun hle =>
        Bool.false_ne_true (hnext.symm.trans (h.hasNext_iff.mpr hle))
      simp only [peek?, hnext, StreamId.nth?, dif_neg hgt, Bool.false_eq_true, if_false]

/-- The word never wraps, not even where nothing is left. -/
theorem toNat_next_add (h : l.IsAfter first k) : (l.next + 2).toNat = l.next.toNat + 2 := by
  have hmax : StreamId.max.val = 0x7fffffff := rfl
  rw [UInt32.toNat_add]
  refine Nat.mod_eq_of_lt ?_
  rw [h]
  simp only [UInt32.reduceToNat]
  omega

/-- One more reservation was made, whatever came of it. -/
theorem reserve (h : l.IsAfter first k) : l.reserve.2.IsAfter first (k + 1) := by
  have hmax : StreamId.max.val = 0x7fffffff := rfl
  have hmoved := h.toNat_next_add
  unfold IsAfter at h ⊢
  unfold LocalStreams.reserve
  split
  · rename_i hnext
    rw [LocalStreams.hasNext_iff] at hnext
    show (l.next + 2).toNat = _
    -- There is room for one more step of the same parity.
    omega
  · rename_i hnext
    rw [LocalStreams.hasNext_iff] at hnext
    show l.next.toNat = _
    omega

/-- A call is answered with the number of the `k`-th reservation. -/
theorem answer (h : l.IsAfter first k) (c : NumberCall ι) :
    (l.answer c).1 = c.reply (StreamId.nth? first k) ∧
      (l.answer c).2.IsAfter first (k + reservations [c]) := by
  cases c with
  | reserve party =>
      refine ⟨?_, h.reserve⟩
      simp only [LocalStreams.answer, NumberCall.reply, l.reserve_fst, h.peek?_eq]
  | peek party =>
      refine ⟨?_, h⟩
      simp only [LocalStreams.answer, NumberCall.reply, h.peek?_eq]

end IsAfter

/-! ### Calls in some order -/

/-- Every call is answered with the number of the `k`-th reservation, where `k` counts those that
came before it. -/
theorem IsAfter.answerAll (h : l.IsAfter first k) (calls : List (NumberCall ι)) :
    (l.answerAll calls).1 = calls.mapIdx (fun i c =>
        c.reply (StreamId.nth? first (k + reservations (calls.take i)))) ∧
      (l.answerAll calls).2.IsAfter first (k + reservations calls) := by
  induction calls generalizing l k with
  | nil => exact ⟨rfl, h⟩
  | cons c cs ih =>
      obtain ⟨hreply, hafter⟩ := h.answer c
      obtain ⟨hreplies, hlast⟩ := ih hafter
      refine ⟨?_, ?_⟩
      · show (l.answer c).1 :: ((l.answer c).2.answerAll cs).1 = _
        rw [hreply, hreplies, List.mapIdx_cons]
        simp only [List.take_zero, List.take_succ_cons, reservations_cons c (List.take _ cs),
          Nat.add_assoc]
        rfl
      · rw [reservations_cons, ← Nat.add_assoc]
        exact hlast

/-- The reservations among the calls get the numbers in turn. -/
theorem IsAfter.results_answerAll (h : l.IsAfter first k) (calls : List (NumberCall ι)) :
    (l.answerAll calls).1.filterMap NumberReply.result? =
      (List.range' k (reservations calls)).map fun j =>
        StreamId.reservation (StreamId.nth? first j) := by
  induction calls generalizing l k with
  | nil => rfl
  | cons c cs ih =>
      obtain ⟨hreply, hafter⟩ := h.answer c
      show ((l.answer c).1 :: ((l.answer c).2.answerAll cs).1).filterMap _ = _
      rw [List.filterMap_cons, hreply, ih hafter, reservations_cons c cs]
      cases c with
      | reserve party =>
          show _ = (List.range' k (1 + reservations cs)).map _
          rw [Nat.add_comm 1, List.range'_succ]
          rfl
      | peek party =>
          show _ = (List.range' k (0 + reservations cs)).map _
          rw [Nat.zero_add]
          rfl

/-- The numbers that parties got are the first ones. -/
theorem numbers_answerAll (h : l.IsAfter first 0) (calls : List (NumberCall ι)) :
    (l.answerAll calls).1.filterMap NumberReply.number? =
      (List.range (reservations calls)).filterMap (StreamId.nth? first) := by
  have hnumber : (NumberReply.number? : NumberReply ι → Option StreamId) =
      fun r => r.result?.bind (·.toOption) := funext NumberReply.number?_eq
  have hoption (next : Option StreamId) : (StreamId.reservation next).toOption = next := by
    cases next <;> rfl
  rw [hnumber, ← List.filterMap_filterMap, h.results_answerAll, List.filterMap_map,
    List.range_eq_range']
  simp only [Function.comp_def, hoption]

/-- Where nothing is left nothing will be. -/
theorem answerAll_of_exhausted (h : l.hasNext = false) (calls : List (NumberCall ι)) :
    (l.answerAll calls).2 = l ∧
      ∀ r ∈ (l.answerAll calls).1.filterMap NumberReply.result?,
        r = .error .streamIdsExhausted := by
  have hreserve : l.reserve = (.error .streamIdsExhausted, l) := by
    simp only [reserve, h, Bool.false_eq_true, if_false]
  induction calls with
  | nil => exact ⟨rfl, fun _ hr => absurd hr List.not_mem_nil⟩
  | cons c cs ih =>
      obtain ⟨hsame, herrors⟩ := ih
      have hkept : (l.answer c).2 = l := by
        cases c with
        | reserve party => exact congrArg Prod.snd hreserve
        | peek party => rfl
      show ((l.answer c).2.answerAll cs).2 = l ∧
        ∀ r ∈ ((l.answer c).1 :: ((l.answer c).2.answerAll cs).1).filterMap _, _
      rw [hkept]
      refine ⟨hsame, fun r hr => ?_⟩
      obtain ⟨reply, hreply, hresult⟩ := List.mem_filterMap.mp hr
      rcases List.mem_cons.mp hreply with rfl | hmem
      · cases c with
        | reserve party =>
            rw [← Option.some.inj hresult]
            exact congrArg Prod.fst hreserve
        | peek party => cases hresult
      · exact herrors r (List.mem_filterMap.mpr ⟨reply, hmem, hresult⟩)

/-- What parties get from the counter of a session: they made `calls`, in the order in which the
counter answered them, were told `replies`, and now the counter stands at `l`. -/
structure NumbersInTurn (role : Role) (upgraded : Bool) (calls : List (NumberCall ι))
    (replies : List (NumberReply ι)) (l : LocalStreams) : Prop where
  /-- Whoever calls, a reservation or a question before which there were `k` reservations is about
  the number `first + 2 * k`, as long as this has 31 bits. -/
  replies_eq : replies = calls.mapIdx fun i c =>
    c.reply (StreamId.nth? (role.firstNumber upgraded) (reservations (calls.take i)))
  results_eq : replies.filterMap NumberReply.result? = (List.range (reservations calls)).map
    fun k => StreamId.reservation (StreamId.nth? (role.firstNumber upgraded) k)
  /-- No two reservations get one number. -/
  increasing : (replies.filterMap NumberReply.number?).Pairwise (·.val < ·.val)
  /-- The numbers are those of streams that this side opens, and none is taken by an upgrade. -/
  own : ∀ id ∈ replies.filterMap NumberReply.number?,
    id.isClientInitiated = (role == .client) ∧ id.isServerInitiated = (role == .server) ∧
      id ≠ .connection ∧ (upgraded = true → id ≠ .ofNat 1)
  /-- The word of the counter does not wrap if it is moved now, and this is so even where nothing
  is left. -/
  toNat_next_add : (l.next + 2).toNat = l.next.toNat + 2
  /-- Whoever asks now is told of the number that a reservation would get, if there is one. -/
  peek?_eq : l.peek? = l.reserve.1.toOption
  /-- Once a reservation failed every later one fails, and the counter is at rest. -/
  exhausted : ∀ e, l.reserve.1 = .error e → l.reserve.2 = l ∧
    ∀ later : List (NumberCall ι), (l.answerAll later).2 = l ∧
      ∀ r ∈ (l.answerAll later).1.filterMap NumberReply.result?, r = .error .streamIdsExhausted

/-- Numbers are of the parity of their side, and begin behind the stream of an upgrade. -/
theorem own_of_nth? {role : Role} {upgraded : Bool} {id : StreamId}
    (h : StreamId.nth? (role.firstNumber upgraded) k = some id) :
    id.isClientInitiated = (role == .client) ∧ id.isServerInitiated = (role == .server) ∧
      id ≠ .connection ∧ (upgraded = true → id ≠ .ofNat 1) := by
  have hval := StreamId.nth?_eq_some_iff.mp h
  have hpos : id.val ≠ 0 := by
    cases role <;> cases upgraded <;> simp only [Role.firstNumber] at hval <;> omega
  have hparity : id.val % 2 = if role = .client then 1 else 0 := by
    cases role <;> cases upgraded <;> simp [Role.firstNumber] at hval ⊢ <;> omega
  have hupgrade : upgraded = true → id.val ≠ 1 := by
    rintro rfl
    cases role <;> simp only [Role.firstNumber] at hval <;> omega
  refine ⟨?_, ?_, fun h => hpos (h ▸ rfl), fun hup h => hupgrade hup (h ▸ rfl)⟩
  · rw [StreamId.isClientInitiated, hparity]
    cases role <;> rfl
  · rw [StreamId.isServerInitiated, hparity]
    cases role <;> simp [hpos]

/-- Parties that share a counter get the numbers in turn, whatever they call and in whatever
order. -/
theorem numbers_in_turn (role : Role) (upgraded : Bool) (calls : List (NumberCall ι)) :
    NumbersInTurn role upgraded calls ((start role upgraded).answerAll calls).1
      ((start role upgraded).answerAll calls).2 := by
  have hstart := isAfter_start role upgraded
  obtain ⟨hreplies, hafter⟩ := hstart.answerAll calls
  have hresults := hstart.results_answerAll calls
  have hnumbers := numbers_answerAll hstart calls
  simp only [Nat.zero_add] at hreplies hafter
  refine ⟨hreplies, ?_, ?_, ?_, hafter.toNat_next_add, ?_, ?_⟩
  · rw [hresults, List.range_eq_range']
  · rw [hnumbers]
    refine List.pairwise_lt_range.filterMap _ fun i j hij id hid id' hid' => ?_
    rw [StreamId.nth?_eq_some_iff.mp hid, StreamId.nth?_eq_some_iff.mp hid']
    omega
  · intro id hid
    rw [hnumbers] at hid
    obtain ⟨k, -, hk⟩ := List.mem_filterMap.mp hid
    exact own_of_nth? hk
  · rw [reserve_fst]
    cases peek? _ <;> rfl
  · intro e he
    have hnone := hasNext_of_reserve_error (Prod.ext he rfl)
    exact ⟨eq_of_reserve_error (Prod.ext he rfl), answerAll_of_exhausted hnone⟩

end LocalStreams

/-- The last numbers of a server and of a client. -/
example :
    (StreamId.nth? 2 0x3ffffffe).map (·.val) = some 0x7ffffffe ∧
      StreamId.nth? 2 0x3fffffff = none ∧
      (StreamId.nth? 1 0x3fffffff).map (·.val) = some 0x7fffffff ∧
      StreamId.nth? 1 0x40000000 = none := by
  decide

/-! ### Counters of bridges -/

/-- The counter of a loop stands as it does after some number of reservations. -/
def Hub.Counts (loop : LoopId) (first : Nat) (h : Hub) : Prop :=
  ∃ k, (h.mailbox loop).streams.IsAfter first k

namespace Hub

variable {h h' : Hub} {loop : LoopId} {first : Nat}

theorem Counts.congr (hc : h.Counts loop first)
    (hsame : (h'.mailbox loop).streams = (h.mailbox loop).streams) : h'.Counts loop first := by
  obtain ⟨k, hk⟩ := hc
  exact ⟨k, hsame ▸ hk⟩

theorem Counts.reserve (hc : h.Counts loop first) (target : LoopId) :
    (h.reserve target).2.Counts loop first := by
  obtain ⟨k, hk⟩ := hc
  by_cases hloop : loop = target
  · subst hloop
    by_cases hindex : loop.index < h.mailboxes.length
    · refine ⟨k + 1, ?_⟩
      show ((h.modifyMailbox loop _).mailbox loop).streams.IsAfter first (k + 1)
      rw [mailbox_modifyMailbox hindex]
      exact hk.reserve
    · -- There is no such loop.
      refine Counts.congr ⟨k, hk⟩ ?_
      simp [Hub.reserve, mailbox, modifyMailbox, hindex]
  · exact Counts.congr ⟨k, hk⟩ (congrArg Mailbox.streams (h.mailbox_modifyMailbox_of_ne hloop _))

/-- Handles do nothing to a counter but reserve numbers. -/
theorem law_counts (loop : LoopId) (first : Nat) :
    Law (fun _ => True) (Regardless (Counts loop first)) where
  good_of_faithful _ := trivial
  void hc := hc
  log {r _ h} _ hc := by
    unfold log
    split <;> exact hc
  forget _ _ _ hc := hc
  answered _ _ _ _ hc := hc
  issue _ _ _ _ _ _ hc := hc
  reserve target _ _ hc := Counts.reserve hc target
  inline _ _ hc := hc
  queue {_ target _ h} _ _ hc :=
    Counts.congr hc (h.read_modifyMailbox loop target (·.streams) fun _ => rfl)

end Hub

/-- A bridge does nothing to a counter but reserve numbers. -/
theorem Outlet.steady_counts {κ : Type} (loop : LoopId) (first : Nat) :
    Outlet.Steady fun o : Outlet κ => o.hub.Counts loop first where
  hub _ := Hub.law_counts loop first
  aside {o h} ha hc := by
    rw [Hub.Counts, Hub.mailbox, ha.mailboxes]
    exact hc
  codec _ _ hc := hc
  buffer _ _ _ hc := hc
  flush hc := hc
  requestClose hc := hc
  leaveWord _ _ _ hc := hc
  markInactive hc := hc
  take {o} hc := by
    obtain ⟨scope, hscope⟩ := o.hub.takeInline_eq
    rw [hscope]
    exact hc

namespace Drive

variable {κ σ δ : Type} [Codec κ] [Connection σ] [Decoder δ] {loop : LoopId} {first : Nat}

theorem counts_step (rounds : Nat) (s : DriveStep κ) {d : Drive κ σ δ}
    (hc : d.turn.hub.Counts loop first) : (d.step rounds s).turn.hub.Counts loop first := by
  have L := Hub.law_counts loop first
  have hmove (m : Move) : (d.turn.move rounds m).state.hub.Counts loop first :=
    (Outlet.steady_counts loop first).move (fun _ _ hc => hc) rounds m (t := d.turn) hc
  cases s with
  | enter e => exact hmove (.enter e)
  | use target a => exact L.use _ true .connection a (.of [] hc)
  | receive =>
      simp only [step]
      split
      · exact hc
      · rename_i c hub hnext
        obtain ⟨rest, -, rfl⟩ := Hub.eq_of_nextCommand hnext
        exact hc.congr (d.turn.hub.read_modifyMailbox loop _ (·.streams) fun _ => rfl)
  | apply index =>
      simp only [step]
      split
      · exact hc
      · rename_i c _
        exact hmove (.apply c)
  | drop index =>
      simp only [step]
      split
      · exact hc
      · rename_i c _
        exact L.abandon (.of [c.promise] hc)
  | dropQueue =>
      have hemptied : (d.turn.hub.emptied d.home).Counts loop first :=
        hc.congr (d.turn.hub.read_modifyMailbox loop _ (·.streams) fun _ => rfl)
      exact L.abandonCommands (.of (_ ++ []) hemptied)
  | take | recode => exact hc
  | finish index outcome =>
      simp only [step]
      split
      · exact hc
      · rename_i f _
        have hlog : (d.turn.hub.log ⟨f.promise, outcome⟩).Counts loop first := by
          unfold Hub.log
          split <;> exact hc
        exact L.resolve_of_log (.of [] hlog)

theorem counts_run (rounds : Nat) (steps : List (DriveStep κ)) {d : Drive κ σ δ}
    (hc : d.turn.hub.Counts loop first) : (d.run rounds steps).turn.hub.Counts loop first := by
  induction steps generalizing d with
  | nil => exact hc
  | cons s steps ih => exact ih (counts_step rounds s hc)

/-- While a bridge runs its handles and writers do nothing to its counter but reserve numbers.
Whichever of them promises a stream next, it gets the number of the `k`-th reservation, where `k`
depends on what happened so far. -/
theorem reserve_run (rounds : Nat) (b : Builder κ σ δ) (reactions : List Reaction)
    (steps : List (DriveStep κ)) :
    ∃ k, (((start b reactions).run rounds steps).turn.hub.reserve (start b reactions).home).1 =
      StreamId.reservation
        (StreamId.nth? (b.role.firstNumber (b.upgrade = some .client)) k) := by
  let first := b.role.firstNumber (b.upgrade = some .client)
  have hstart : (start b reactions).turn.hub.Counts (start b reactions).home first :=
    ⟨0, LocalStreams.isAfter_start b.role (b.upgrade = some .client)⟩
  obtain ⟨k, hk⟩ := counts_run rounds steps hstart
  refine ⟨k, ?_⟩
  rw [← hk.peek?_eq, ← LocalStreams.reserve_fst]
  rfl

end Drive

end FrameBridge
