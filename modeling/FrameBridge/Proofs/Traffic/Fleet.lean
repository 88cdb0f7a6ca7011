import FrameBridge.Proofs.Traffic.Quiet
import FrameBridge.Bridge.Entries
import Mathlib.Logic.Function.Basic

/-!
# Fleets

A fleet is a number of bridges over one hub, with the tasks that run their loops.  The loops that a
task runs are nested: code on the loop of one bridge may enter the loop of another one, and is back
on its own loop when that one is left.  A bridge is entered by one task at a time, so that there is
at most one scope of each loop.  Tasks take turns in any order, and any of them may send commands at
any time, on the loop that it runs or from outside of every loop.

A bridge that writes performs what waits inline on the loop that runs, whether this loop is its own
or not.  It is not when code that entered another bridge still uses the writer of the first one.
The events tell such uses apart, and `Traffic.IsOwn` leaves them out.

* `Traffic` is what may happen to commands, and `Fleet.Step` what a task or the driver of a bridge
  may do next.  What is no traffic is not told apart.
* `Fleet.IsSound` is what holds between any two steps.
* `Fleet.Conveys` is the account of all commands between two states: where they went, and what
  became of them there.
* `Fleet.Serves` says which calls a codec gets for them.
-/

namespace FrameBridge

/-- The frame that a codec is called to encode. -/
def CodecCall.encoded? : CodecCall → Option Outgoing
  | .encode f => some f
  | _ => none

/-- A call that the write of a command may make. -/
def CodecCall.IsWriting : CodecCall → Prop
  | .encode _ | .drain _ => True
  | _ => False

/-- What becomes of a write that a bridge makes. -/
inductive Verdict where
  /-- The codec is asked to encode it. -/
  | encoded
  /-- A fault waits, and the write is dropped. -/
  | refused
deriving DecidableEq, Repr

/-- Something that happens to a command, or to a place where commands wait. -/
inductive Traffic where
  /-- A command for a loop is sent, from a loop or from outside of every loop. -/
  | sent (origin : Option LoopId) (target : LoopId) (command : Command) (place : Place)
  /-- A bridge writes while a loop runs, and takes first what waits inline there. -/
  | used (bridge loop : LoopId)
  /-- A bridge makes the write of a command that was queued inline on a loop. -/
  | performed (bridge loop : LoopId) (command : Command) (verdict : Verdict)
  /-- A loop is left before all is settled. -/
  | aborted (loop : LoopId)
  /-- A command that was queued inline is dropped with the scope. -/
  | lost (loop : LoopId) (command : Command)
  /-- A command is taken out of the queue of a loop. -/
  | handedOut (loop : LoopId) (command : Command)
  /-- A bridge makes the write of a command from the queue of a loop. -/
  | applied (bridge loop : LoopId) (command : Command) (verdict : Verdict)
  /-- Whoever took a command out of a queue drops it. -/
  | dropped (loop : LoopId) (command : Command)
  /-- The queue of a loop goes away. -/
  | queueGone (loop : LoopId)
  /-- A command goes away with its queue. -/
  | discarded (loop : LoopId) (command : Command)
deriving DecidableEq, Repr

namespace Traffic

/-- Nobody uses the writer of a bridge on another loop, or applies a command to another bridge than
the one whose queue it was in. -/
def IsOwn : Traffic → Prop
  | .used b l | .applied b l _ _ => b = l
  | _ => True

instance : DecidablePred IsOwn := fun e => by
  cases e <;> unfold IsOwn <;> infer_instance

/-- The command for a loop that went to a place. -/
@[simp] def sent? (place : Place) (loop : LoopId) : Traffic → Option Command
  | .sent _ target c p => if target = loop ∧ p = place then some c else none
  | _ => none

/-- The command whose write was made by the bridge of the loop that it was queued on inline. -/
@[simp] def performed? (loop : LoopId) : Traffic → Option Command
  | .performed b l c _ => if b = loop ∧ l = loop then some c else none
  | _ => none

/-- The command that waits inline on a loop no longer. -/
@[simp] def leftInline? (loop : LoopId) : Traffic → Option Command
  | .performed _ l c _ | .lost l c => if l = loop then some c else none
  | _ => none

/-- The command that was taken out of the queue of a loop. -/
@[simp] def handedOut? (loop : LoopId) : Traffic → Option Command
  | .handedOut l c => if l = loop then some c else none
  | _ => none

/-- The command that waits in the queue of a loop no longer. -/
@[simp] def leftQueue? (loop : LoopId) : Traffic → Option Command
  | .handedOut l c | .discarded l c => if l = loop then some c else none
  | _ => none

/-- The command from the queue of a loop that was dealt with. -/
@[simp] def dealtWith? (loop : LoopId) : Traffic → Option Command
  | .applied _ l c _ | .dropped l c => if l = loop then some c else none
  | _ => none

/-- The command that was dropped by whoever had it. -/
@[simp] def failed? : Traffic → Option Command
  | .sent _ _ c .nowhere | .performed _ _ c .refused | .lost _ c | .applied _ _ c .refused
  | .dropped _ c | .discarded _ c => some c
  | _ => none

/-- The frame that the codec of a bridge is asked to encode. -/
@[simp] def encoded? (bridge : LoopId) : Traffic → Option Outgoing
  | .performed b _ c .encoded | .applied b _ c .encoded => if b = bridge then some c.outgoing else none
  | _ => none

end Traffic

namespace Outlet

variable {κ : Type}

/-- What becomes of a write that is made now. -/
def verdict (o : Outlet κ) : Verdict := if o.channel.hasFault then .refused else .encoded

/-- What happens to commands that waited inline on a loop when they are performed. -/
def performances [Codec κ] (loop : LoopId) (o : Outlet κ) : List Command → List Traffic
  | [] => []
  | c :: cs => .performed o.home loop c o.verdict :: performances loop (o.perform c) cs

end Outlet

/-- Several bridges over one hub, and the tasks that run their loops.  Under the number of a loop
without a bridge there is one that nobody enters. -/
structure Fleet (κ σ δ : Type) where
  bridges : LoopId → Bridge κ σ δ
  /-- What the bridges share.  Its scope is that of the task that worked last. -/
  hub : Hub
  /-- The loops that each task runs, the innermost first. -/
  tasks : Nat → List LoopId := fun _ => []
  /-- The commands that wait in the scope of each loop. -/
  inline : LoopId → List Command := fun _ => []
  /-- The commands that were taken out of each queue and not dealt with. -/
  held : LoopId → List Command := fun _ => []

namespace Fleet

variable {κ σ δ : Type}

/-- The scope of the innermost of nested loops. -/
def scopeOf (f : Fleet κ σ δ) (loops : List LoopId) : Option Scope :=
  loops.head?.map fun loop => ⟨loop, f.inline loop⟩

/-- The hub as a task sees it. -/
def hubOf (f : Fleet κ σ δ) (task : Nat) : Hub := { f.hub with scope := f.scopeOf (f.tasks task) }

/-- A bridge in the hands of a task. -/
def turn (f : Fleet κ σ δ) (task : Nat) (loop : LoopId) : Turn κ σ δ :=
  ⟨f.bridges loop, f.hubOf task⟩

/-- The commands in the queue of a loop. -/
def queue (f : Fleet κ σ δ) (loop : LoopId) : List Command := (f.hub.mailbox loop).queue

/-- Some task runs the loop. -/
def IsRunning (f : Fleet κ σ δ) (loop : LoopId) : Prop := ∃ task, loop ∈ f.tasks task

/-- The fleet after a task left the hub behind in this state. -/
def withHub (f : Fleet κ σ δ) (h : Hub) : Fleet κ σ δ :=
  { f with
    hub := h
    inline := h.scope.elim f.inline fun s => Function.update f.inline s.loop s.inline }

/-- The fleet after a task left a bridge and the hub behind in this state. -/
def put (f : Fleet κ σ δ) (t : Turn κ σ δ) : Fleet κ σ δ :=
  { f.withHub t.hub with bridges := Function.update f.bridges t.bridge.id t.bridge }

/-- The fleet with these commands taken out of the queues and not dealt with. -/
def withHeld (f : Fleet κ σ δ) (held : LoopId → List Command) : Fleet κ σ δ := { f with held }

/-- A bridge that has taken what waits inline on the loop that a task runs. -/
def taking (f : Fleet κ σ δ) (task : Nat) (bridge : LoopId) : Outlet κ :=
  { (f.turn task bridge).outlet with hub := (f.hubOf task).takeInline.2 }

/-- A bridge after it took what waits inline on the loop that a task runs and performed it. -/
def caughtUp [Codec κ] (f : Fleet κ σ δ) (task : Nat) (bridge : LoopId) : Turn κ σ δ :=
  (f.turn task bridge).withOutlet
    ((f.hubOf task).takeInline.1.foldl Outlet.perform (f.taking task bridge))

/-- A task enters a loop. -/
def enter (f : Fleet κ σ δ) (task : Nat) (loop : LoopId) : Fleet κ σ δ :=
  { f with
    tasks := Function.update f.tasks task (loop :: f.tasks task)
    inline := Function.update f.inline loop [] }

/-- A task leaves a loop and is back on the `outer` ones. -/
def leave (f : Fleet κ σ δ) (task : Nat) (loop : LoopId) (outer : List LoopId) : Fleet κ σ δ :=
  { f with
    hub := (f.hubOf task).leave loop (f.scopeOf outer)
    tasks := Function.update f.tasks task outer
    inline := Function.update f.inline loop [] }

/-- What may happen next, and what it means for commands. -/
inductive Step [Codec κ] (f : Fleet κ σ δ) : List Traffic → Fleet κ σ δ → Prop where
  /-- Something is done to a bridge and the hub that is no traffic. -/
  | quiet (task : Nat) {t : Turn κ σ δ} (h : (f.hubOf task).Quiet t.hub) : Step f [] (f.put t)
  /-- A command is sent through a handle. -/
  | send (task : Nat) (target : LoopId) (offLoop : Bool) (c : Command) :
      Step f [.sent ((f.hubOf task).origin offLoop) target c ((f.hubOf task).place target offLoop)]
        (f.withHub ((f.hubOf task).send target offLoop c))
  /-- A task enters the loop of a bridge that no task runs. -/
  | enter (task : Nat) (loop : LoopId) (h : ¬ f.IsRunning loop) : Step f [] (f.enter task loop)
  /-- A bridge takes the commands that wait in the scope of the innermost loop, and performs
  them. -/
  | catchUp (task : Nat) (bridge : LoopId) {loop : LoopId} {outer : List LoopId}
      (h : f.tasks task = loop :: outer) :
      Step f (.used bridge loop :: (f.taking task bridge).performances loop (f.inline loop))
        (f.put (f.caughtUp task bridge))
  /-- The bridge of the innermost loop performs a command from a queue. -/
  | apply (task : Nat) {bridge : LoopId} {outer : List LoopId} (h : f.tasks task = bridge :: outer)
      {loop : LoopId} {c : Command} (hc : c ∈ f.held loop) :
      Step f [.applied bridge loop c (f.turn task bridge).outlet.verdict]
        { f.put ((f.turn task bridge).onOutlet (·.perform c)) with
          held := Function.update f.held loop ((f.held loop).erase c) }
  /-- An entry returns, since nothing is left to settle. -/
  | back (task : Nat) {loop : LoopId} {outer : List LoopId} (h : f.tasks task = loop :: outer)
      (hsettled : (f.turn task loop).isSettled = true) : Step f [] (f.leave task loop outer)
  /-- An entry ends without returning. -/
  | abort (task : Nat) {loop : LoopId} {outer : List LoopId} (h : f.tasks task = loop :: outer) :
      Step f (.aborted loop :: (f.inline loop).map (.lost loop)) (f.leave task loop outer)
  /-- The driver of a bridge takes the oldest command out of its queue. -/
  | receive (loop : LoopId) {c : Command} {h : Hub} (hnext : f.hub.nextCommand loop = some (c, h)) :
      Step f [.handedOut loop c]
        { f with hub := h, held := Function.update f.held loop (f.held loop ++ [c]) }
  /-- The driver of a bridge drops a command that it took out of the queue. -/
  | drop {loop : LoopId} {c : Command} (hc : c ∈ f.held loop) :
      Step f [.dropped loop c]
        { f with
          hub := f.hub.abandon c.promise
          held := Function.update f.held loop ((f.held loop).erase c) }
  /-- The driver of a bridge drops the queue. -/
  | dropQueue (loop : LoopId) :
      Step f (.queueGone loop :: (f.queue loop).map (.discarded loop))
        { f with hub := f.hub.closeMailbox loop }

/-- What holds of a fleet between any two steps, if the code that waits for writes sends nothing. -/
structure IsSound (f : Fleet κ σ δ) : Prop where
  isMute : f.hub.IsMute
  named : ∀ loop, (f.bridges loop).id = loop
  shut : ∀ loop, f.hub.isOpen loop = false → f.queue loop = []
  idle : ∀ loop, ¬ f.IsRunning loop → f.inline loop = []
  alone : ∀ {i j loop}, loop ∈ f.tasks i → loop ∈ f.tasks j → i = j
  nodup : ∀ i, (f.tasks i).Nodup

/-- A fleet in which nobody runs a loop yet is sound. -/
theorem isSound_of_idle {f : Fleet κ σ δ} (hm : f.hub.IsMute) (hnamed : ∀ l, (f.bridges l).id = l)
    (hqueue : ∀ l, f.queue l = []) (htasks : ∀ i, f.tasks i = []) (hinline : ∀ l, f.inline l = []) :
    f.IsSound where
  isMute := hm
  named := hnamed
  shut l _ := hqueue l
  idle l _ := hinline l
  alone {i _ l} hi _ := by
    rw [htasks i] at hi
    cases hi
  nodup i := by
    rw [htasks i]
    exact List.nodup_nil

open Traffic in
/-- The account of the commands between two states of a fleet. -/
structure Conveys (f : Fleet κ σ δ) (tr : List Traffic) (g : Fleet κ σ δ) : Prop where
  /-- A command goes inline if and only if it is sent from the loop that it is for, and otherwise
  to the queue of that loop, as long as there is one. -/
  place : ∀ {before o l c p after}, tr = before ++ .sent o l c p :: after →
    (p = .inline ↔ o = some l) ∧
      (p = .queue ↔ o ≠ some l ∧ f.hub.isOpen l = true ∧ .queueGone l ∉ before)
  isOpen : ∀ l, g.hub.isOpen l = true ↔ f.hub.isOpen l = true ∧ .queueGone l ∉ tr
  /-- What waited inline on a loop, and what was sent there, was performed or lost in this order,
  or still waits. -/
  inline : ∀ l, f.inline l ++ tr.filterMap (sent? .inline l) =
    tr.filterMap (leftInline? l) ++ g.inline l
  /-- Nothing is lost unless an entry ends without returning. -/
  kept : ∀ {l}, .aborted l ∉ tr → ∀ c, .lost l c ∉ tr
  /-- What waited in the queue of a loop, and what was sent there, was handed out or discarded in
  this order, or still waits. -/
  queue : ∀ l, f.queue l ++ tr.filterMap (sent? .queue l) =
    tr.filterMap (leftQueue? l) ++ g.queue l
  /-- Nothing is discarded unless the queue goes away. -/
  alive : ∀ {l}, .queueGone l ∉ tr → ∀ c, .discarded l c ∉ tr
  /-- What was handed out was applied or dropped once, or is held. -/
  held : ∀ l, (f.held l ++ tr.filterMap (handedOut? l)).Perm
    (tr.filterMap (dealtWith? l) ++ g.held l)
  /-- Whatever was dropped or refused has failed. -/
  failed : ∀ e ∈ tr, ∀ c, e.failed? = some c → c.HasFailed g.hub
  journal : f.hub.journal <:+ g.hub.journal

/-- What it means for codecs that a bridge performs or applies commands. -/
structure Serves (f : Fleet κ σ δ) (bridge : LoopId) (es : List Traffic)
    (g : Fleet κ σ δ) : Prop where
  /-- Its codec is called to encode those that are not refused, in order, and perhaps to drain. -/
  encodes : ∃ made, g.hub.codecCalls bridge = f.hub.codecCalls bridge ++ made ∧
    (∀ call ∈ made, call.IsWriting) ∧
    made.filterMap CodecCall.encoded? = es.filterMap (Traffic.encoded? bridge)
  /-- All are refused if a fault waits already. -/
  refuses : (f.bridges bridge).channel.hasFault = true →
    es.filterMap (Traffic.encoded? bridge) = []
  /-- A fault waits if one was refused. -/
  isFaulted : ∀ {l c}, .performed bridge l c .refused ∈ es ∨ .applied bridge l c .refused ∈ es →
    (g.bridges bridge).channel.hasFault = true
  /-- No other bridge changes, and no other codec is called. -/
  alone : ∀ other, other ≠ bridge → g.bridges other = f.bridges other ∧
    g.hub.codecCalls other = f.hub.codecCalls other

end Fleet

end FrameBridge
