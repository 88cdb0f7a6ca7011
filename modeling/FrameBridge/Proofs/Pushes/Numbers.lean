import FrameBridge.Proofs.Law.Hub

/-!
# Numbers of promised streams

Every push promise whose number the bridge chooses takes the next one of a counter.  The command
then waits in one of two places: on the loop that runs, or in the queue for commands from
elsewhere.  The ledger of a loop is the counter together with the numbers that wait in each place.

Whatever a handle is used for, at most one number is dealt, and it goes behind those that wait
already.
-/

namespace FrameBridge

/-- The number of the stream that a command promises. -/
def Command.number? : Command → Option Nat
  | .pushPromise _ id _ _ => some id.val
  | _ => none

/-- The numbers of the streams that commands promise. -/
def numbersOf (cs : List Command) : List Nat := cs.filterMap Command.number?

@[simp] theorem numbersOf_nil : numbersOf [] = [] := rfl

@[simp] theorem numbersOf_append (cs ds : List Command) :
    numbersOf (cs ++ ds) = numbersOf cs ++ numbersOf ds :=
  List.filterMap_append

theorem numbersOf_cons (c : Command) (cs : List Command) :
    numbersOf (c :: cs) = c.number?.toList ++ numbersOf cs := by
  rw [numbersOf, List.filterMap_cons]
  cases c.number? <;> rfl

theorem numbersOf_singleton (c : Command) : numbersOf [c] = c.number?.toList := by
  rw [numbersOf_cons, numbersOf_nil, List.append_nil]

namespace LocalStreams

/-- An identifier that is handed out is what the counter stood at, and the counter moves up. -/
theorem val_of_reserve {l l' : LocalStreams} {id : StreamId} (h : l.reserve = (.ok id, l')) :
    id.val = l.next.toNat ∧ l'.next.toNat = l.next.toNat + 2 := by
  unfold reserve at h
  split at h
  · rename_i hnext
    have hle : l.next.toNat ≤ 0x7fffffff := by
      simpa [hasNext, UInt32.le_iff_toNat_le] using hnext
    cases h
    refine ⟨Nat.mod_eq_of_lt (by omega), ?_⟩
    rw [UInt32.toNat_add]
    exact Nat.mod_eq_of_lt (by simp; omega)
  · cases h

theorem eq_of_reserve_error {l l' : LocalStreams} {e : BridgeError}
    (h : l.reserve = (.error e, l')) : l' = l := by
  unfold reserve at h
  split at h
  · cases h
  · cases h
    rfl

end LocalStreams

/-! ### Ledgers -/

/-- The numbers that wait on the loop that runs and in the queue of a loop, and where the counter
of that loop stands. -/
structure Ledger where
  own : List Nat
  queued : List Nat
  next : Nat

namespace Ledger

/-- The counter moves on. -/
def skip (l : Ledger) : Ledger := { l with next := l.next + 2 }

def addOwn (l : Ledger) (ns : List Nat) : Ledger := { l with own := l.own ++ ns }

def addQueued (l : Ledger) (ns : List Nat) : Ledger := { l with queued := l.queued ++ ns }

@[simp] theorem addOwn_nil (l : Ledger) : l.addOwn [] = l := by
  simp only [addOwn, List.append_nil]

@[simp] theorem addQueued_nil (l : Ledger) : l.addQueued [] = l := by
  simp only [addQueued, List.append_nil]

/-- At most one number is dealt, and it goes behind those that wait already. -/
inductive Deals (l : Ledger) : Ledger → Prop
  | nothing : Deals l l
  /-- The number goes nowhere. -/
  | lost : Deals l l.skip
  | own : Deals l (l.skip.addOwn [l.next])
  | queued : Deals l (l.skip.addQueued [l.next])

/-- What becomes of a ledger when a number is asked for. -/
inductive Reserves (l : Ledger) : Except BridgeError StreamId → Ledger → Prop
  | refused (e : BridgeError) : Reserves l (.error e) l
  | taken {id : StreamId} (hid : id.val = l.next) : Reserves l (.ok id) l.skip

/-- What becomes of a ledger until a command is sent: one that promises a stream takes the next
number. -/
inductive Prepares (l : Ledger) : HandleStep → Ledger → Prop
  | plain {c : Command} (hc : c.number? = none) : Prepares l (.command c) l
  | push {c : Command} (hc : c.number? = some l.next) : Prepares l (.command c) l.skip
  | refused (r : Resolution) : Prepares l (.refused r) l
  | answered : Prepares l .answered l

/-- Where a command that is sent may go. -/
inductive Sends (l : Ledger) (c : Command) : Ledger → Prop
  | nowhere : Sends l c l
  | own : Sends l c (l.addOwn (numbersOf [c]))
  | queued : Sends l c (l.addQueued (numbersOf [c]))

theorem deals_of_prepares {l m n : Ledger} {c : Command} (h : l.Prepares (.command c) m)
    (hs : m.Sends c n) : l.Deals n := by
  cases h with
  | plain hc =>
      have hnone : numbersOf [c] = [] := by rw [numbersOf_singleton, hc, Option.toList_none]
      cases hs with
      | nowhere => exact .nothing
      | own =>
          rw [hnone, addOwn_nil]
          exact .nothing
      | queued =>
          rw [hnone, addQueued_nil]
          exact .nothing
  | push hc =>
      have hone : numbersOf [c] = [l.next] := by rw [numbersOf_singleton, hc, Option.toList_some]
      cases hs with
      | nowhere => exact .lost
      | own =>
          rw [hone]
          exact .own
      | queued =>
          rw [hone]
          exact .queued

end Ledger

namespace Hub

/-- The commands that wait on the loop that runs. -/
def inline (h : Hub) : List Command := (h.scope.map (·.inline)).getD []

def ledger (h : Hub) (loop : LoopId) : Ledger :=
  { own := numbersOf h.inline
    queued := numbersOf (h.mailbox loop).queue
    next := (h.mailbox loop).streams.next.toNat }

/-- A loop is one of the hub's, and no other loop runs. -/
structure IsHomeOf (h : Hub) (loop : LoopId) : Prop where
  valid : loop.index < h.mailboxes.length
  scope : ∀ s, h.scope = some s → s.loop = loop

variable {h h' : Hub} {loop target : LoopId}

theorem takeInline_fst (h : Hub) : h.takeInline.1 = h.inline := by
  unfold takeInline inline
  cases h.scope <;> rfl

theorem inline_congr (hscope : h'.scope = h.scope) : h'.inline = h.inline := by
  rw [inline, hscope, inline]

theorem IsHomeOf.congr (hh : h.IsHomeOf loop) (hmailboxes : h'.mailboxes = h.mailboxes)
    (hscope : h'.scope = h.scope) : h'.IsHomeOf loop where
  valid := hmailboxes ▸ hh.valid
  scope := hscope ▸ hh.scope

theorem IsHomeOf.modifyMailbox (hh : h.IsHomeOf loop) (target : LoopId) (f : Mailbox → Mailbox) :
    (h.modifyMailbox target f).IsHomeOf loop where
  valid := by
    simp only [Hub.modifyMailbox, List.length_modify]
    exact hh.valid
  scope := hh.scope

/-- Numbers are a matter of mailboxes and of what waits on the loop that runs. -/
theorem ledger_congr (hmailboxes : h'.mailboxes = h.mailboxes) (hscope : h'.scope = h.scope)
    (loop : LoopId) : h'.ledger loop = h.ledger loop := by
  simp only [ledger, mailbox, inline, hmailboxes, hscope]

theorem ledger_modifyMailbox (hh : h.IsHomeOf loop) (f : Mailbox → Mailbox) :
    (h.modifyMailbox loop f).ledger loop =
      { own := (h.ledger loop).own
        queued := numbersOf (f (h.mailbox loop)).queue
        next := (f (h.mailbox loop)).streams.next.toNat } := by
  simp only [ledger, mailbox_modifyMailbox hh.valid f]
  rfl

theorem ledger_modifyMailbox_of_ne (hne : target ≠ loop) (f : Mailbox → Mailbox) :
    (h.modifyMailbox target f).ledger loop = h.ledger loop := by
  simp only [ledger, h.mailbox_modifyMailbox_of_ne (Ne.symm hne) f]
  rfl

/-- Nothing waits inline where no loop runs. -/
theorem own_of_outside (hscope : h.scope = none) (loop : LoopId) : (h.ledger loop).own = [] := by
  simp only [ledger, inline, hscope, Option.map_none, Option.getD_none, numbersOf_nil]

theorem ledger_takeInline (hh : h.IsHomeOf loop) :
    h.takeInline.2.IsHomeOf loop ∧
      h.takeInline.2.ledger loop = { h.ledger loop with own := [] } := by
  unfold takeInline
  cases hscope : h.scope with
  | none =>
      refine ⟨hh, ?_⟩
      simp only [ledger, inline, hscope, Option.map_none, Option.getD_none, numbersOf_nil]
  | some s =>
      refine ⟨⟨hh.valid, ?_⟩, rfl⟩
      intro s' hs'
      cases hs'
      exact hh.scope s hscope

/-! ### Uses of handles -/

theorem reserves_reserve (hh : h.IsHomeOf loop) :
    (h.reserve loop).2.IsHomeOf loop ∧
      (h.ledger loop).Reserves (h.reserve loop).1 ((h.reserve loop).2.ledger loop) := by
  refine ⟨hh.modifyMailbox loop _, ?_⟩
  simp only [reserve]
  rcases hr : (h.mailbox loop).streams.reserve with ⟨e | id, streams⟩
  · have hsame : (h.modifyMailbox loop ({ · with streams })).ledger loop = h.ledger loop := by
      rw [ledger_modifyMailbox hh, LocalStreams.eq_of_reserve_error hr]
      rfl
    rw [hsame]
    exact .refused e
  · obtain ⟨hid, hnext⟩ := LocalStreams.val_of_reserve hr
    have hskip : (h.modifyMailbox loop ({ · with streams })).ledger loop =
        (h.ledger loop).skip := by
      rw [ledger_modifyMailbox hh]
      simp only [hnext]
      rfl
    rw [hskip]
    exact .taken hid

theorem prepares_commandOf (hh : h.IsHomeOf loop) (now : StreamId) (a : HandleAction) :
    (h.commandOf loop now a).2.IsHomeOf loop ∧
      (h.ledger loop).Prepares (h.commandOf loop now a).1
        ((h.commandOf loop now a).2.ledger loop) := by
  cases a with
  | headers | data | frame | reset | goAway | ping | settings =>
      exact ⟨hh.congr rfl rfl, .plain rfl⟩
  | isClosed => exact ⟨hh.congr rfl rfl, .answered⟩
  | push s hs kind label =>
      have hreserves := reserves_reserve hh
      simp only [commandOf]
      generalize h.reserve loop = reserved at hreserves
      obtain ⟨r, h'⟩ := reserved
      obtain ⟨hhome, hreserves⟩ := hreserves
      cases r with
      | error e =>
          refine ⟨hhome.congr rfl rfl, ?_⟩
          show (h.ledger loop).Prepares _ (h'.ledger loop)
          generalize h'.ledger loop = l at hreserves ⊢
          cases hreserves
          exact .refused _
      | ok id =>
          refine ⟨hhome.congr rfl rfl, ?_⟩
          show (h.ledger loop).Prepares _ (h'.ledger loop)
          generalize h'.ledger loop = l at hreserves ⊢
          cases hreserves with
          | taken hid => exact .push (congrArg some hid)

/-- A command is dropped, or goes behind those that wait on the loop or in its queue. -/
theorem sends_dispatch (hh : h.IsHomeOf loop) (offLoop : Bool) (c : Command) :
    (h.dispatch loop offLoop c).1.IsHomeOf loop ∧
      (h.ledger loop).Sends c ((h.dispatch loop offLoop c).1.ledger loop) := by
  have henqueue : (h.enqueue loop c).1.IsHomeOf loop ∧
      (h.ledger loop).Sends c ((h.enqueue loop c).1.ledger loop) := by
    unfold enqueue
    split
    · refine ⟨hh.modifyMailbox loop _, ?_⟩
      simp only [ledger_modifyMailbox hh, numbersOf_append]
      exact .queued
    · exact ⟨hh, .nowhere⟩
  unfold dispatch
  split
  · rename_i s hscope
    split
    · refine ⟨⟨hh.valid, fun s' hs' => ?_⟩, ?_⟩
      · cases hs'
        exact hh.scope s hscope
      · have hown : ({ h with scope := some { s with inline := s.inline ++ [c] } } : Hub).ledger
            loop = (h.ledger loop).addOwn (numbersOf [c]) := by
          simp only [ledger, inline, hscope, Option.map_some, Option.getD_some, numbersOf_append]
          rfl
        simp only [hown]
        exact .own
    · exact henqueue
  · exact henqueue

/-- A handle of another bridge is no business of a loop's numbers. -/
theorem ledger_useOnce_of_ne (hh : h.IsHomeOf loop) (hne : target ≠ loop) (offLoop : Bool)
    (now : StreamId) (a : HandleAction) :
    (h.useOnce target offLoop now a).1.IsHomeOf loop ∧
      (h.useOnce target offLoop now a).1.ledger loop = h.ledger loop := by
  have hcommand : (h.commandOf target now a).2.IsHomeOf loop ∧
      (h.commandOf target now a).2.ledger loop = h.ledger loop := by
    have hother (f : Mailbox → Mailbox) := ledger_modifyMailbox_of_ne (h := h) hne f
    cases a with
    | push s hs kind label =>
        simp only [commandOf, reserve]
        rcases (h.mailbox target).streams.reserve with ⟨_ | id, streams⟩ <;>
          exact ⟨(hh.modifyMailbox target _).congr rfl rfl, hother _⟩
    | headers | data | frame | reset | goAway | ping | settings | isClosed =>
        exact ⟨hh.congr rfl rfl, rfl⟩
  unfold useOnce
  generalize h.commandOf target now a = prepared at hcommand
  obtain ⟨step, h'⟩ := prepared
  obtain ⟨hhome, hledger⟩ := hcommand
  cases step with
  | refused r => exact ⟨hhome, hledger⟩
  | answered => exact ⟨hhome, hledger⟩
  | command c =>
      have henqueue : (h'.enqueue target c).1.IsHomeOf loop ∧
          (h'.enqueue target c).1.ledger loop = h.ledger loop := by
        unfold enqueue
        split
        · exact ⟨hhome.modifyMailbox target _, (ledger_modifyMailbox_of_ne hne _).trans hledger⟩
        · exact ⟨hhome, hledger⟩
      simp only [dispatch]
      split
      · rename_i s hscope
        rw [if_neg fun heq => hne (heq.symm.trans (hhome.scope s hscope))]
        exact henqueue
      · exact henqueue

/-- Whatever a handle is used for, at most one number is dealt. -/
theorem deals_useOnce (hh : h.IsHomeOf loop) (target : LoopId) (offLoop : Bool) (now : StreamId)
    (a : HandleAction) :
    (h.useOnce target offLoop now a).1.IsHomeOf loop ∧
      (h.ledger loop).Deals ((h.useOnce target offLoop now a).1.ledger loop) := by
  by_cases htarget : target = loop
  · subst htarget
    have hprepares := prepares_commandOf hh now a
    unfold useOnce
    generalize h.commandOf target now a = prepared at hprepares
    obtain ⟨step, h'⟩ := prepared
    obtain ⟨hhome, hprepares⟩ := hprepares
    cases step with
    | command c =>
        obtain ⟨hafter, hsends⟩ := sends_dispatch hhome offLoop c
        exact ⟨hafter, Ledger.deals_of_prepares hprepares hsends⟩
    | refused | answered =>
        refine ⟨hhome, ?_⟩
        generalize h'.ledger target = l at hprepares ⊢
        cases hprepares
        exact .nothing
  · obtain ⟨hhome, hsame⟩ := ledger_useOnce_of_ne hh htarget offLoop now a
    rw [hsame]
    exact ⟨hhome, .nothing⟩

end Hub

end FrameBridge
