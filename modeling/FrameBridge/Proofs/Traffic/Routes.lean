import FrameBridge.Proofs.Traffic.Nesting

/-!
# The routes of commands

What a run of a fleet does with commands: each one goes to one place, waits there in the order of
sending, and leaves it once, into the hands of its own bridge.
-/

namespace FrameBridge

namespace Fleet

variable {κ σ δ : Type} {f g : Fleet κ σ δ} {tr : List Traffic}

/-- What a run in which each writer is used on its own loop does with commands. -/
structure Routes [Codec κ] (f : Fleet κ σ δ) (tr : List Traffic) (g : Fleet κ σ δ) : Prop where
  /-- It goes inline if and only if the code that sends it runs on its own loop, and otherwise to the
  queue of its own loop, or nowhere once that queue is gone.  It leaves each place in the order in
  which it came there.  Whatever is dropped or refused fails. -/
  conveys : f.Conveys tr g
  /-- A bridge performs and applies only commands of its own. -/
  own : ∀ {b l c v}, .performed b l c v ∈ tr ∨ .applied b l c v ∈ tr → b = l ∧
    ((∃ o p, .sent o l c p ∈ tr) ∨ c ∈ f.inline l ++ f.queue l ++ f.held l)
  /-- Whatever a bridge performs and applies and does not refuse is encoded by its codec, in this
  order. -/
  encoded : ∀ b, ∃ made, g.hub.codecCalls b = f.hub.codecCalls b ++ made ∧
    (tr.filterMap (Traffic.encoded? b)).Sublist (made.filterMap CodecCall.encoded?)
  /-- Whatever waits inline has been performed by its own bridge, in order, when the entry
  returns. -/
  performed : ∀ l, ¬ f.IsRunning l → ¬ g.IsRunning l → .aborted l ∉ tr →
    tr.filterMap (Traffic.sent? .inline l) = tr.filterMap (Traffic.performed? l)
  /-- As long as a queue is there it hands out what was sent to it, in order. -/
  handedOut : ∀ l, .queueGone l ∉ tr →
    f.queue l ++ tr.filterMap (Traffic.sent? .queue l) =
      tr.filterMap (Traffic.handedOut? l) ++ g.queue l
  /-- Nothing comes to a queue that has gone away, or out of it. -/
  gone : ∀ l, .queueGone l ∈ tr → g.queue l = [] ∧ ∀ {tr' g'}, g.Runs tr' g' →
    tr'.filterMap (Traffic.sent? .queue l) = [] ∧ tr'.filterMap (Traffic.handedOut? l) = []

section Routes

variable [Codec κ]

/-- An entry that returns has performed all that was sent inline. -/
theorem performed_of_returned (hf : f.IsSound) (hrun : f.Runs tr g) (hown : ∀ e ∈ tr, e.IsOwn)
    {l : LoopId} (hbefore : ¬ f.IsRunning l) (hafter : ¬ g.IsRunning l) (hkept : .aborted l ∉ tr) :
    tr.filterMap (Traffic.sent? .inline l) = tr.filterMap (Traffic.performed? l) := by
  have hconveys := hrun.conveys hf
  have hinline := hconveys.inline l
  rw [hf.idle l hbefore, (hrun.isSound hf).idle l hafter, List.nil_append, List.append_nil] at hinline
  rw [hinline]
  refine List.filterMap_congr fun e he => ?_
  cases e with
  | performed b m c v =>
      obtain rfl := hrun.own hf hown (.inl he)
      simp
  | lost m c =>
      have hne : m ≠ l := by
        rintro rfl
        exact hconveys.kept hkept c he
      exact if_neg hne
  | _ => rfl

theorem handedOut_of_alive (hf : f.IsSound) (hrun : f.Runs tr g) {l : LoopId}
    (halive : .queueGone l ∉ tr) :
    f.queue l ++ tr.filterMap (Traffic.sent? .queue l) =
      tr.filterMap (Traffic.handedOut? l) ++ g.queue l := by
  have hconveys := hrun.conveys hf
  rw [hconveys.queue l]
  congr 1
  refine List.filterMap_congr fun e he => ?_
  cases e with
  | discarded m c =>
      have hne : m ≠ l := by
        rintro rfl
        exact hconveys.alive halive c he
      exact if_neg hne
  | _ => rfl

/-- A queue that has gone away does not come back. -/
theorem nothing_of_gone (hf : f.IsSound) (hrun : f.Runs tr g) {l : LoopId}
    (hgone : .queueGone l ∈ tr) :
    g.queue l = [] ∧ ∀ {tr' g'}, g.Runs tr' g' →
      tr'.filterMap (Traffic.sent? .queue l) = [] ∧ tr'.filterMap (Traffic.handedOut? l) = [] := by
  have hg := hrun.isSound hf
  have hshut : g.hub.isOpen l = false := by
    by_contra hopen
    exact (((hrun.conveys hf).isOpen l).mp (Bool.not_eq_false _ ▸ hopen)).2 hgone
  have hempty := hg.shut l hshut
  refine ⟨hempty, fun {tr' g'} hrun' => ?_⟩
  have hlater := hrun'.conveys hg
  have hsent := hlater.sent_of_shut hshut
  have hqueue := hlater.queue l
  rw [hempty, hsent] at hqueue
  have hleft := (List.append_eq_nil_iff.mp hqueue.symm).1
  refine ⟨hsent, List.eq_nil_iff_forall_not_mem.mpr fun c hc => ?_⟩
  have hmem := leftQueue_of_handedOut hc
  rw [hleft] at hmem
  cases hmem

theorem RunsIn.routes (hrun : f.Runs tr g) (hf : f.IsSound) (hown : ∀ e ∈ tr, e.IsOwn) :
    f.Routes tr g where
  conveys := hrun.conveys hf
  own hc := ⟨hrun.own hf hown hc, (hrun.conveys hf).own hc⟩
  encoded := hrun.calls hf
  performed _ := performed_of_returned hf hrun hown
  handedOut _ := handedOut_of_alive hf hrun
  gone _ := nothing_of_gone hf hrun

end Routes

variable [Codec κ] [Connection σ] [Decoder δ]

/-- Every command that is sent goes to one place, waits there in the order of sending, and leaves it
once, to its own bridge, if each writer is used on the loop of its own bridge only.

* Whenever a bridge performs or applies commands no other bridge changes and no other codec is
  called.  Its own codec is called to encode them, except those that it refuses since a fault waits.
* A task that enters another loop and leaves it again finds its own scope as it was.
* Every way into a bridge is such a run, in which nothing is aborted if the entry returns.
* So is whatever code does that enters bridges, and others inside of them.  The writers it has from
  the outer ones may be used inside, but then this is told by the run. -/
theorem commands_routed (hf : f.IsSound) (hrun : f.Runs tr g) (hown : ∀ e ∈ tr, e.IsOwn) :
    f.Routes tr g ∧
    (∀ {es g' b l}, g.Step es g' → (.used b l ∈ es ∨ ∃ c v, .applied b l c v ∈ es) →
      g.Serves b es g') ∧
    (∀ {task tr' es g₁ g₂}, g.RunsIn (IsInside task (g.tasks task)) tr' g₁ →
      g₁.IsInside task (g.tasks task) → g₁.Step es g₂ → g₂.tasks task = g.tasks task →
      (g₂.hubOf task).scope = (g.hubOf task).scope) ∧
    (∀ {loop} task rounds m, ¬ g.IsRunning loop → (∀ c, m = .apply c → c ∈ g.held loop) →
      ∃ tr' g', g.Runs tr' g' ∧ (∀ e ∈ tr', e.IsOwn) ∧ g'.tasks = g.tasks ∧
        (g'.hubOf task).scope = (g.hubOf task).scope ∧
        g'.turn task loop = ((g.turn task loop).move rounds m).state ∧
        (∀ l, l ≠ loop → g'.bridges l = g.bridges l ∧ g'.hub.codecCalls l = g.hub.codecCalls l) ∧
        (((g.turn task loop).move rounds m).stop = none → ∀ l, .aborted l ∉ tr')) ∧
    ∀ task rounds (code : Code), (∀ b ∈ code.entered, ∀ i, i ≠ task → b ∉ g.tasks i) →
      g.Visits task (code.keepsToOwn (g.tasks task).head? = true) (code.exec rounds task g) := by
  have hg := hrun.isSound hf
  refine ⟨hrun.routes hf hown, fun hs hb => serves_step hg hs hb,
    fun hrun' hinside hs hback => scope_of_back hg hrun' hinside hs hback,
    fun task rounds m hfree hm => ?_, fun task rounds code => code.visits_exec hg rounds⟩
  obtain ⟨tr', g', hrun', hown', htasks, hscope, hturn, hothers, hkept⟩ :=
    runs_move hg hfree task rounds hm
  refine ⟨tr', g', hrun', hown', htasks, hscope, hturn, fun l hl => ⟨hothers l hl, ?_⟩, hkept⟩
  have hcalls := codecCalls_move hg task hl rounds m
  rw [← hturn] at hcalls
  exact hcalls

end Fleet

/-- Two bridges that were just built. -/
def twins : Fleet LineCodec Script ToyDecoder where
  bridges loop := { id := loop, codec := {}, blueprint := none }
  hub := { mailboxes := [{ streams := ⟨1⟩ }, { streams := ⟨1⟩ }] }

theorem isSound_twins : twins.IsSound := by
  refine Fleet.isSound_of_idle (List.forall_mem_nil _) (fun _ => rfl) ?_ (fun _ => rfl) fun _ => rfl
  rintro ⟨index⟩
  match index with
  | 0 | 1 | _ + 2 => rfl

/-- A ping that somebody on the first loop waits for. -/
def hail (n : Nat) : Command := .ping ⟨n.toUInt64⟩ (.watched ⟨n, ⟨0⟩, .future, "", none⟩)

/-- Code on the first loop uses both handles, enters the second loop and uses them there, and once
from outside.  When it is back and has returned, the second queue is served once and then dropped. -/
def crossing : List Traffic :=
  [.sent (some ⟨0⟩) ⟨0⟩ (hail 1) .inline, .sent (some ⟨0⟩) ⟨1⟩ (hail 2) .queue,
    .sent (some ⟨1⟩) ⟨1⟩ (hail 3) .inline, .sent (some ⟨1⟩) ⟨0⟩ (hail 4) .queue,
    .sent none ⟨1⟩ (hail 5) .queue, .used ⟨1⟩ ⟨1⟩, .performed ⟨1⟩ ⟨1⟩ (hail 3) .encoded,
    .used ⟨0⟩ ⟨0⟩, .performed ⟨0⟩ ⟨0⟩ (hail 1) .encoded, .handedOut ⟨1⟩ (hail 2), .queueGone ⟨1⟩,
    .discarded ⟨1⟩ (hail 5)]

theorem runs_crossing : ∃ g, twins.Runs crossing g ∧ ∀ i, g.tasks i = [] := by
  have hfirst : ¬ twins.IsRunning ⟨0⟩ := by
    rintro ⟨i, hi⟩
    cases hi
  have hsecond : ¬ (twins.enter 0 ⟨0⟩).IsRunning ⟨1⟩ := by
    rintro ⟨i, hi⟩
    cases i with
    | zero =>
        have hi : (⟨1⟩ : LoopId) ∈ [⟨0⟩] := hi
        simp at hi
    | succ i => cases hi
  have hrun := Fleet.RunsIn.refl.last (.enter 0 ⟨0⟩ hfirst)
  have hrun := hrun.last (.send 0 ⟨0⟩ false (hail 1))
  have hrun := hrun.last (.send 0 ⟨1⟩ false (hail 2))
  have hrun := hrun.last (.enter 0 ⟨1⟩ hsecond)
  have hrun := hrun.last (.send 0 ⟨1⟩ false (hail 3))
  have hrun := hrun.last (.send 0 ⟨0⟩ false (hail 4))
  have hrun := hrun.last (.send 0 ⟨1⟩ true (hail 5))
  have hrun := hrun.last (.catchUp 0 ⟨1⟩ rfl)
  have hrun := hrun.last (.back 0 rfl (by decide +kernel))
  have hrun := hrun.last (.catchUp 0 ⟨0⟩ rfl)
  have hrun := hrun.last (.back 0 rfl (by decide +kernel))
  have hrun := hrun.last (.receive ⟨1⟩ rfl)
  have hrun := hrun.last (.dropQueue ⟨1⟩)
  exact ⟨_, hrun, fun i => by cases i <;> rfl⟩

/-- The commands of the two loops that run go inline and are performed, those of the other origins
go to the queues, and what is left in a queue that goes away fails. -/
theorem commands_routed_crossing :
    twins.IsSound ∧ (∀ e ∈ crossing, e.IsOwn) ∧ ∃ g, twins.Runs crossing g ∧
      crossing.filterMap (Traffic.sent? .inline ⟨0⟩) = crossing.filterMap (Traffic.performed? ⟨0⟩) ∧
      crossing.filterMap (Traffic.sent? .inline ⟨1⟩) = crossing.filterMap (Traffic.performed? ⟨1⟩) ∧
      g.queue ⟨0⟩ = [hail 4] ∧ g.queue ⟨1⟩ = [] ∧ (hail 5).HasFailed g.hub := by
  obtain ⟨g, hrun, hidle⟩ := runs_crossing
  have hown : ∀ e ∈ crossing, e.IsOwn := by decide
  obtain ⟨hroutes, -⟩ := Fleet.commands_routed isSound_twins hrun hown
  have hbefore (l : LoopId) : ¬ twins.IsRunning l := by
    rintro ⟨i, hi⟩
    cases hi
  have hafter (l : LoopId) : ¬ g.IsRunning l := by
    rintro ⟨i, hi⟩
    rw [hidle i] at hi
    cases hi
  have hfirst : [hail 4] = g.queue ⟨0⟩ := hroutes.handedOut ⟨0⟩ (by decide)
  refine ⟨isSound_twins, hown, g, hrun,
    hroutes.performed ⟨0⟩ (hbefore _) (hafter _) (by decide),
    hroutes.performed ⟨1⟩ (hbefore _) (hafter _) (by decide), hfirst.symm,
    (hroutes.gone ⟨1⟩ (by decide)).1, ?_⟩
  exact hroutes.conveys.failed (.discarded ⟨1⟩ (hail 5)) (by decide) _ rfl

/-- Two bridges in whose codecs the next drain fails. -/
def leakyTwins : Fleet LineCodec Script ToyDecoder :=
  { twins with bridges := fun loop =>
      { id := loop, blueprint := none,
        codec := { drainFailure := some (.connection .internalError "window") } } }

/-- Code that writes data whose drain may fail, dispatches a ping for its own loop and writes once
more. -/
def trailing : Code :=
  .enter ⟨0⟩ (.act ⟨0⟩ (.data (.id (.ofNat 1)) [0x78] true)
    (.use ⟨0⟩ false (.ping ⟨7⟩ "") (.act ⟨0⟩ (.reset (.id (.ofNat 1)) .noError) .done))) .done

/-- Code on the second loop, entered from the first one, that dispatches headers for its own loop and
goes on with the writer of the first bridge. -/
def straying : Code :=
  .enter ⟨0⟩ (.enter ⟨1⟩ (.use ⟨1⟩ false (.headers (.id (.ofNat 3)) .empty false)
    (.act ⟨0⟩ (.data (.id (.ofNat 1)) [0x78] false) .done)) .done) .done

/-- Not every command for the loop that runs is encoded by its bridge when the entry returns: a ping
that is dispatched while a fault waits is refused.  And where code uses the writer of another bridge
than the one whose loop runs, that bridge encodes what waits there. -/
theorem commands_astray :
    let refused := trailing.exec 4 0 leakyTwins
    let astray := straying.exec 4 0 twins
    (trailing.keepsToOwn none = true ∧ refused.stop = none ∧ refused.state.inline ⟨0⟩ = [] ∧
      refused.state.hub.codecCalls ⟨0⟩ =
        [.encode (.data (.ofNat 1) [0x78] 0 true),
          .drain (.error (.connection .internalError "window")),
          .encode (.goAway .connection .internalError (Bytes.ofText
            (ProtocolError.connection .internalError "window").display))]) ∧
    straying.keepsToOwn none = false ∧ astray.stop = none ∧
      astray.state.hub.codecCalls ⟨0⟩ =
        [.encode (.headers (.ofNat 3) .empty 0 false), .encode (.data (.ofNat 1) [0x78] 0 false)] ∧
      astray.state.hub.codecCalls ⟨1⟩ = [] :=
  ⟨⟨rfl, rfl, rfl, rfl⟩, rfl, rfl, rfl, rfl⟩

end FrameBridge
