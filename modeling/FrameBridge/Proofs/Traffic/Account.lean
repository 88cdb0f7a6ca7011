import FrameBridge.Proofs.Traffic.Calls

/-!
# The account of a fleet

Each step of a fleet moves commands from one place to the next and leaves all others where they are,
so that the accounts of one step after the other add up.
-/

namespace FrameBridge.Fleet

variable {κ σ δ : Type} {f g g' : Fleet κ σ δ} {es es' : List Traffic}

/-! ### What changes -/

/-- A bridge that was changed has kept its number. -/
theorem named_put (h : ∀ l, (f.bridges l).id = l) (t : Turn κ σ δ) (l : LoopId) :
    ((f.put t).bridges l).id = l := by
  show (Function.update f.bridges t.bridge.id t.bridge l).id = l
  by_cases hl : l = t.bridge.id
  · rw [hl, Function.update_self]
  · rw [Function.update_of_ne hl]
    exact h l

/-- Only the bridge that was worked on changes. -/
theorem bridges_put {t : Turn κ σ δ} {loop other : LoopId} (hid : t.bridge.id = loop)
    (hne : other ≠ loop) : (f.put t).bridges other = f.bridges other :=
  Function.update_of_ne (hid ▸ hne) ..

theorem bridges_put_self {t : Turn κ σ δ} {b : LoopId} (hid : t.bridge.id = b) :
    (f.put t).bridges b = t.bridge := by
  show Function.update f.bridges t.bridge.id t.bridge b = _
  rw [hid, Function.update_self]

/-- Where the scope of the task that worked is what it was, all commands wait inline as before. -/
theorem inline_withHub {h : Hub} (loops : List LoopId) (hscope : h.scope = f.scopeOf loops) :
    (f.withHub h).inline = f.inline := by
  unfold withHub
  rw [hscope]
  cases loops with
  | nil => rfl
  | cons l outer => exact Function.update_eq_self l f.inline

theorem inline_withHub_some {h : Hub} {loop : LoopId} {waiting : List Command}
    (hscope : h.scope = some ⟨loop, waiting⟩) :
    (f.withHub h).inline = Function.update f.inline loop waiting := by
  unfold withHub
  rw [hscope]
  rfl

theorem isRunning_of_tasks {task : Nat} {loop : LoopId} {outer : List LoopId}
    (h : f.tasks task = loop :: outer) : f.IsRunning loop := by
  refine ⟨task, ?_⟩
  rw [h]
  exact List.mem_cons_self

theorem scopeOf_congr {loops : List LoopId} (h : ∀ l ∈ loops, g.inline l = f.inline l) :
    g.scopeOf loops = f.scopeOf loops := by
  cases loops with
  | nil => rfl
  | cons l loops => simp [scopeOf, h l List.mem_cons_self]

theorem loop_scopeOf (f : Fleet κ σ δ) (loops : List LoopId) :
    (f.scopeOf loops).map (·.loop) = loops.head? := by
  cases loops <;> rfl

theorem scope_withHub {h : Hub} {loops : List LoopId}
    (hloop : h.scope.map (·.loop) = loops.head?) : (f.withHub h).scopeOf loops = h.scope := by
  cases loops with
  | nil => exact (Option.map_eq_none_iff.mp hloop).symm
  | cons l loops =>
      obtain ⟨⟨_, waiting⟩, hscope, rfl⟩ := Option.map_eq_some_iff.mp hloop
      simp [scopeOf, withHub, hscope]

/-- What a task left behind is what it sees, if it is still where it was. -/
theorem turn_withHub {task : Nat} {h : Hub}
    (hloop : h.scope.map (·.loop) = (f.tasks task).head?) (loop : LoopId) :
    (f.withHub h).turn task loop = ⟨f.bridges loop, h⟩ := by
  have hscope : (f.withHub h).scopeOf (f.tasks task) = h.scope := scope_withHub hloop
  show (⟨f.bridges loop, { h with scope := (f.withHub h).scopeOf (f.tasks task) }⟩ :
    Turn κ σ δ) = _
  rw [hscope]

theorem turn_put {task : Nat} {loop : LoopId} {t : Turn κ σ δ} (hid : t.bridge.id = loop)
    (hloop : t.hub.scope.map (·.loop) = (f.tasks task).head?) :
    (f.put t).turn task loop = t := by
  have hbridge : (f.put t).bridges loop = t.bridge := by
    rw [← hid]
    exact Function.update_self ..
  have hhub := congrArg Turn.hub (turn_withHub hloop loop)
  show (⟨(f.put t).bridges loop, ((f.withHub t.hub).turn task loop).hub⟩ : Turn κ σ δ) = t
  rw [hbridge, hhub]

/-- What a task leaves behind changes what waits inline on its innermost loop at most. -/
theorem inline_put_of_ne {t : Turn κ σ δ} {loops : List LoopId} {l : LoopId}
    (hloop : t.hub.scope.map (·.loop) = loops.head?) (hl : loops.head? ≠ some l) :
    (f.put t).inline l = f.inline l := by
  show t.hub.scope.elim f.inline (fun s => Function.update f.inline s.loop s.inline) l = _
  cases hscope : t.hub.scope with
  | none => rfl
  | some s =>
      refine Function.update_of_ne (fun heq => hl ?_) ..
      rw [← hloop, hscope, heq]
      rfl

theorem update_elim_idem {s s' : Option Scope} (hloop : s'.map (·.loop) = s.map (·.loop))
    (waiting : LoopId → List Command) :
    s'.elim (s.elim waiting fun s => Function.update waiting s.loop s.inline)
        (fun s' => Function.update (s.elim waiting fun s => Function.update waiting s.loop s.inline)
          s'.loop s'.inline) =
      s'.elim waiting fun s' => Function.update waiting s'.loop s'.inline := by
  cases s with
  | none =>
      cases s' with
      | none => rfl
      | some s' => cases hloop
  | some s =>
      cases s' with
      | none => cases hloop
      | some s' =>
          have hsame : s'.loop = s.loop := Option.some.inj hloop
          simp [hsame]

/-- Of two states that a task leaves the same bridge in the second one counts. -/
theorem put_put {t t' : Turn κ σ δ} (held : LoopId → List Command)
    (hid : t'.bridge.id = t.bridge.id) (hloop : t'.hub.scope.map (·.loop) = t.hub.scope.map (·.loop)) :
    ((f.put t).withHeld held).put t' = (f.put t').withHeld held := by
  have hinline := update_elim_idem hloop f.inline
  simp only [put, withHub, withHeld, hid, Function.update_idem, hinline]

/-- Whoever leaves the bridges as they are leaves just the hub behind. -/
theorem put_bridge (hf : f.IsSound) (loop : LoopId) (h : Hub) :
    f.put ⟨f.bridges loop, h⟩ = f.withHub h := by
  have hid : (f.bridges loop).id = loop := hf.named loop
  simp only [put, hid, Function.update_eq_self]
  rfl

/-! ### Accounts -/

/-- Where nothing happened to a command the account is empty. -/
theorem Conveys.of_same (hqueue : ∀ l, g.queue l = f.queue l)
    (hopen : ∀ l, g.hub.isOpen l = f.hub.isOpen l) (hinline : g.inline = f.inline)
    (hheld : g.held = f.held) (hjournal : f.hub.journal <:+ g.hub.journal) : f.Conveys [] g where
  place h := by
    have hlength := congrArg List.length h
    simp at hlength
  isOpen l := by simp [hopen l]
  inline l := by simp [hinline]
  kept _ _ hc := absurd hc List.not_mem_nil
  queue l := by simp [hqueue l]
  alive _ _ hc := absurd hc List.not_mem_nil
  held l := by simp [hheld]
  failed _ he := absurd he List.not_mem_nil
  journal := hjournal

theorem Conveys.refl (f : Fleet κ σ δ) : f.Conveys [] f :=
  .of_same (fun _ => rfl) (fun _ => rfl) rfl rfl List.suffix_rfl

/-- What is done to the hub that is no traffic leaves the account empty, in whatever scope. -/
theorem Conveys.of_quiet {s : Option Scope} (hquiet : Hub.Quiet { f.hub with scope := s } g.hub)
    (hinline : g.inline = f.inline) (hheld : g.held = f.held) : f.Conveys [] g :=
  .of_same hquiet.queue hquiet.isOpen hinline hheld hquiet.journal

/-- Accounts add up. -/
theorem Conveys.trans (h : f.Conveys es g) (h' : g.Conveys es' g') : f.Conveys (es ++ es') g' where
  place {before o l c p after} heq := by
    rcases List.append_eq_append_iff.mp heq with ⟨mid, hbefore, hmid⟩ | ⟨mid, hes, hafter⟩
    · -- The command was sent after the first part.
      have hplace := h'.place hmid
      rw [h.isOpen l] at hplace
      rw [hbefore]
      refine ⟨hplace.1, hplace.2.trans ?_⟩
      simp only [List.mem_append, not_or, and_assoc]
    · cases mid with
      | nil =>
          have hplace := h'.place (show es' = [] ++ _ from hafter.symm)
          rw [h.isOpen l] at hplace
          rw [List.append_nil] at hes
          rw [← hes]
          refine ⟨hplace.1, hplace.2.trans ?_⟩
          simp
      | cons e mid =>
          cases hafter
          exact h.place hes
  isOpen l := by
    rw [h'.isOpen l, h.isOpen l, List.mem_append, not_or, and_assoc]
  inline l := by
    rw [List.filterMap_append, List.filterMap_append, ← List.append_assoc, h.inline l,
      List.append_assoc, h'.inline l, List.append_assoc]
  kept {l} hl c hc := by
    rw [List.mem_append, not_or] at hl
    rcases List.mem_append.mp hc with hc | hc
    · exact h.kept hl.1 c hc
    · exact h'.kept hl.2 c hc
  queue l := by
    rw [List.filterMap_append, List.filterMap_append, ← List.append_assoc, h.queue l,
      List.append_assoc, h'.queue l, List.append_assoc]
  alive {l} hl c hc := by
    rw [List.mem_append, not_or] at hl
    rcases List.mem_append.mp hc with hc | hc
    · exact h.alive hl.1 c hc
    · exact h'.alive hl.2 c hc
  held l := by
    rw [List.filterMap_append, List.filterMap_append, ← List.append_assoc]
    refine ((h.held l).append_right _).trans ?_
    rw [List.append_assoc, List.append_assoc]
    exact (h'.held l).append_left _
  failed e he c hc := by
    rcases List.mem_append.mp he with he | he
    · exact fun w hw => h'.journal.subset (h.failed e he c hc w hw)
    · exact h'.failed e he c hc
  journal := h.journal.trans h'.journal

/-- Where there is no queue nothing goes there. -/
theorem Conveys.sent_of_shut (h : f.Conveys es g) {l : LoopId} (hshut : f.hub.isOpen l = false) :
    es.filterMap (Traffic.sent? .queue l) = [] := by
  refine List.filterMap_eq_nil_iff.mpr fun e he => ?_
  cases e with
  | sent o target c p =>
      refine if_neg ?_
      rintro ⟨rfl, rfl⟩
      obtain ⟨before, after, heq⟩ := List.append_of_mem he
      have hopen := ((h.place heq).2.mp rfl).2.1
      rw [hshut] at hopen
      cases hopen
  | _ => rfl

/-- A codec never forgets a call. -/
theorem Conveys.codecCalls (h : f.Conveys es g) (b : LoopId) :
    f.hub.codecCalls b <+: g.hub.codecCalls b :=
  reported_suffix Entry.called? h.journal b

theorem mem_sent {p : Place} {l : LoopId} {c : Command} (h : c ∈ es.filterMap (Traffic.sent? p l)) :
    ∃ o, .sent o l c p ∈ es := by
  obtain ⟨e, he, hc⟩ := List.mem_filterMap.mp h
  cases e with
  | sent o target c' q =>
      simp only [Traffic.sent?, Option.ite_none_right_eq_some, Option.some.injEq] at hc
      obtain ⟨⟨rfl, rfl⟩, rfl⟩ := hc
      exact ⟨o, he⟩
  | _ => cases hc

/-- Whatever leaves the queue is handed out or discarded. -/
theorem leftQueue_of_handedOut {l : LoopId} {c : Command}
    (h : c ∈ es.filterMap (Traffic.handedOut? l)) : c ∈ es.filterMap (Traffic.leftQueue? l) := by
  obtain ⟨e, he, hc⟩ := List.mem_filterMap.mp h
  refine List.mem_filterMap.mpr ⟨e, he, ?_⟩
  cases e with
  | handedOut m c' => exact hc
  | _ => cases hc

/-- What is performed and applied was sent, or waited from the start. -/
theorem Conveys.own (h : f.Conveys es g) {b l : LoopId} {c : Command} {v : Verdict}
    (hc : .performed b l c v ∈ es ∨ .applied b l c v ∈ es) :
    (∃ o p, .sent o l c p ∈ es) ∨ c ∈ f.inline l ++ f.queue l ++ f.held l := by
  rcases hc with hc | hc
  · have hleft : c ∈ es.filterMap (Traffic.leftInline? l) :=
      List.mem_filterMap.mpr ⟨_, hc, if_pos rfl⟩
    have hmem : c ∈ f.inline l ++ es.filterMap (Traffic.sent? .inline l) := by
      rw [h.inline l]
      exact List.mem_append_left _ hleft
    rcases List.mem_append.mp hmem with hmem | hmem
    · exact .inr (by simp [hmem])
    · obtain ⟨o, ho⟩ := mem_sent hmem
      exact .inl ⟨o, _, ho⟩
  · have hdealt : c ∈ es.filterMap (Traffic.dealtWith? l) :=
      List.mem_filterMap.mpr ⟨_, hc, if_pos rfl⟩
    have hmem := (h.held l).symm.subset (List.mem_append_left _ hdealt)
    rcases List.mem_append.mp hmem with hmem | hmem
    · exact .inr (by simp [hmem])
    · have hqueue : c ∈ f.queue l ++ es.filterMap (Traffic.sent? .queue l) := by
        rw [h.queue l]
        exact List.mem_append_left _ (leftQueue_of_handedOut hmem)
      rcases List.mem_append.mp hqueue with hqueue | hqueue
      · exact .inr (by simp [hqueue])
      · obtain ⟨o, ho⟩ := mem_sent hqueue
        exact .inl ⟨o, _, ho⟩

/-! ### Single steps -/

/-- The account of what happens to commands that are not sent. -/
theorem Conveys.of_unsent (hunsent : ∀ o l c p, .sent o l c p ∉ es)
    (hopen : ∀ l, g.hub.isOpen l = true ↔ f.hub.isOpen l = true ∧ .queueGone l ∉ es)
    (hinline : ∀ l, f.inline l = es.filterMap (Traffic.leftInline? l) ++ g.inline l)
    (hkept : ∀ l, .aborted l ∉ es → ∀ c, .lost l c ∉ es)
    (hqueue : ∀ l, f.queue l = es.filterMap (Traffic.leftQueue? l) ++ g.queue l)
    (halive : ∀ l, .queueGone l ∉ es → ∀ c, .discarded l c ∉ es)
    (hheld : ∀ l, (f.held l ++ es.filterMap (Traffic.handedOut? l)).Perm
      (es.filterMap (Traffic.dealtWith? l) ++ g.held l))
    (hfailed : ∀ e ∈ es, ∀ c, e.failed? = some c → c.HasFailed g.hub)
    (hjournal : f.hub.journal <:+ g.hub.journal) : f.Conveys es g := by
  have hnone (p : Place) (l : LoopId) : es.filterMap (Traffic.sent? p l) = [] := by
    refine List.filterMap_eq_nil_iff.mpr fun e he => ?_
    cases e with
    | sent o m c q => exact absurd he (hunsent o m c q)
    | _ => rfl
  exact {
    place {_ o l c p _} heq := by
      have hmem : .sent o l c p ∈ es := heq ▸ List.mem_append_right _ List.mem_cons_self
      exact absurd hmem (hunsent o l c p)
    isOpen := hopen
    inline l := by rw [hnone, List.append_nil, ← hinline l]
    kept {l} := hkept l
    queue l := by rw [hnone, List.append_nil, ← hqueue l]
    alive {l} := halive l
    held := hheld
    failed := hfailed
    journal := hjournal }

/-- The account of one command that is sent. -/
theorem Conveys.of_sent {o : Option LoopId} {l : LoopId} {c : Command} {p : Place}
    (hplace : (p = .inline ↔ o = some l) ∧ (p = .queue ↔ o ≠ some l ∧ f.hub.isOpen l = true))
    (hopen : ∀ m, g.hub.isOpen m = f.hub.isOpen m)
    (hinline : ∀ m, g.inline m = f.inline m ++ if l = m ∧ p = .inline then [c] else [])
    (hqueue : ∀ m, g.queue m = f.queue m ++ if l = m ∧ p = .queue then [c] else [])
    (hheld : g.held = f.held) (hfailed : p = .nowhere → c.HasFailed g.hub)
    (hjournal : f.hub.journal <:+ g.hub.journal) : f.Conveys [.sent o l c p] g where
  place {before _ _ _ _ _} heq := by
    cases before with
    | nil =>
        cases heq
        simpa using hplace
    | cons e before =>
        have hlength := congrArg List.length heq
        simp at hlength
  isOpen m := by simp [hopen m]
  inline m := by
    rw [hinline m]
    by_cases h : l = m ∧ p = .inline
    · simp [h]
    · simp [List.filterMap_cons, if_neg h]
  kept _ _ hc := by simp at hc
  queue m := by
    rw [hqueue m]
    by_cases h : l = m ∧ p = .queue
    · simp [h]
    · simp [List.filterMap_cons, if_neg h]
  alive _ _ hc := by simp at hc
  held m := by simp [List.filterMap_cons, hheld]
  failed e he c' hc' := by
    obtain rfl := List.mem_singleton.mp he
    cases p with
    | inline | queue => cases hc'
    | nowhere =>
        cases hc'
        exact hfailed rfl
  journal := hjournal

/-- Code whose command goes inline runs on the innermost loop of its task. -/
theorem tasks_of_origin {task : Nat} {offLoop : Bool} {loop : LoopId}
    (h : (f.hubOf task).origin offLoop = some loop) : ∃ outer, f.tasks task = loop :: outer := by
  unfold Hub.origin at h
  cases offLoop with
  | true => cases h
  | false =>
      cases htasks : f.tasks task with
      | nil => simp [hubOf, scopeOf, htasks] at h
      | cons l outer =>
          simp only [hubOf, scopeOf, htasks, List.head?_cons, Option.map_some] at h
          cases h
          exact ⟨outer, rfl⟩

/-- What waits inline after a command was sent. -/
theorem inline_send (hm : f.hub.IsMute) (task : Nat) (target : LoopId) (offLoop : Bool)
    (c : Command) (l : LoopId) :
    (f.withHub ((f.hubOf task).send target offLoop c)).inline l = f.inline l ++
      if target = l ∧ (f.hubOf task).place target offLoop = .inline then [c] else [] := by
  have hm' : (f.hubOf task).IsMute := hm
  cases hwhere : (f.hubOf task).place target offLoop with
  | inline =>
      obtain ⟨waiting, hscope, hsend⟩ := Hub.send_inline hwhere c
      obtain ⟨loop, -, hloop⟩ := Option.map_eq_some_iff.mp hscope
      cases hloop
      rw [hsend, inline_withHub_some rfl]
      by_cases hl : target = l
      · subst hl
        simp
      · rw [Function.update_of_ne (Ne.symm hl), if_neg (fun h => hl h.1), List.append_nil]
  | queue =>
      rw [(Hub.send_queue hwhere c).2, inline_withHub (f.tasks task) rfl]
      simp
  | nowhere =>
      have hquiet : (f.hubOf task).Quiet ((f.hubOf task).abandon c.promise) := .resolve hm' _
      rw [(Hub.send_nowhere hwhere c).2, inline_withHub (f.tasks task) hquiet.scope]
      simp

/-- A command that is sent is put in one place, or has failed. -/
theorem conveys_send (hm : f.hub.IsMute) (task : Nat) (target : LoopId) (offLoop : Bool)
    (c : Command) :
    f.Conveys [.sent ((f.hubOf task).origin offLoop) target c ((f.hubOf task).place target offLoop)]
      (f.withHub ((f.hubOf task).send target offLoop c)) := by
  have hplace := (⟨Place.of_eq_inline, Place.of_eq_queue⟩ :
    ((f.hubOf task).place target offLoop = .inline ↔ _) ∧
      ((f.hubOf task).place target offLoop = .queue ↔ _))
  have hinline := inline_send hm task target offLoop c
  have hm' : (f.hubOf task).IsMute := hm
  cases hwhere : (f.hubOf task).place target offLoop with
  | inline =>
      obtain ⟨waiting, -, hsend⟩ := Hub.send_inline hwhere c
      rw [hwhere] at hplace hinline
      rw [hsend] at hinline ⊢
      refine .of_sent hplace (fun _ => rfl) hinline (fun m => ?_) rfl (fun h => by cases h)
        List.suffix_rfl
      simp [queue, withHub, hubOf, Hub.mailbox]
  | queue =>
      obtain ⟨hopen, hsend⟩ := Hub.send_queue hwhere c
      rw [hwhere] at hplace hinline
      rw [hsend] at hinline ⊢
      refine .of_sent hplace (fun m => ?_) hinline (fun m => ?_) rfl (fun h => by cases h)
        List.suffix_rfl
      · exact Hub.isOpen_modifyMailbox (f.hubOf task) m target fun _ => rfl
      · show (((f.hubOf task).modifyMailbox target _).mailbox m).queue = _
        by_cases hm : m = target
        · subst hm
          rw [Hub.mailbox_modifyMailbox (Hub.index_lt_of_isOpen hopen), if_pos ⟨rfl, rfl⟩]
          rfl
        · rw [Hub.mailbox_modifyMailbox_of_ne _ hm, if_neg (fun h => hm h.1.symm), List.append_nil]
          rfl
  | nowhere =>
      have hquiet : (f.hubOf task).Quiet ((f.hubOf task).abandon c.promise) := .resolve hm' _
      rw [hwhere] at hplace hinline
      rw [(Hub.send_nowhere hwhere c).2] at hinline ⊢
      refine .of_sent hplace hquiet.isOpen hinline (fun m => ?_) rfl
        (fun _ => Hub.hasFailed_abandon _ c) hquiet.journal
      refine (hquiet.queue m).trans ?_
      simp [queue, hubOf, Hub.mailbox]

theorem takeInline_hubOf {task : Nat} {loop : LoopId} {outer : List LoopId}
    (h : f.tasks task = loop :: outer) :
    (f.hubOf task).takeInline = (f.inline loop, { f.hub with scope := some ⟨loop, []⟩ }) := by
  simp [Hub.takeInline, hubOf, scopeOf, h]

theorem taking_eq {task : Nat} {loop : LoopId} {outer : List LoopId}
    (h : f.tasks task = loop :: outer) (bridge : LoopId) :
    f.taking task bridge =
      { (f.turn task bridge).outlet with hub := { f.hub with scope := some ⟨loop, []⟩ } } := by
  have htaken := congrArg Prod.snd (takeInline_hubOf h)
  rw [taking, htaken]

/-- A command that somebody held is dealt with. -/
theorem Conveys.of_dealt {s : Option Scope} {loop : LoopId} {c : Command} {e : Traffic}
    (hquiet : Hub.Quiet { f.hub with scope := s } g.hub) (hinline : g.inline = f.inline)
    (hc : c ∈ f.held loop) (hheld : g.held = Function.update f.held loop ((f.held loop).erase c))
    (he : (∃ b v, e = .applied b loop c v ∧ (v = .refused → c.HasFailed g.hub)) ∨
      e = .dropped loop c ∧ c.HasFailed g.hub) : f.Conveys [e] g := by
  have hopen (l : LoopId) : g.hub.isOpen l = f.hub.isOpen l := hquiet.isOpen l
  have hqueue (l : LoopId) : g.queue l = f.queue l := hquiet.queue l
  have hdealt (l : LoopId) : (f.held l).Perm ((if loop = l then [c] else []) ++ g.held l) := by
    rw [hheld]
    by_cases hl : loop = l
    · subst hl
      simpa using List.perm_cons_erase hc
    · rw [if_neg hl, Function.update_of_ne (Ne.symm hl)]
      rfl
  have hlist (l : LoopId) : [e].filterMap (Traffic.dealtWith? l) = if loop = l then [c] else [] := by
    rcases he with ⟨b, v, rfl, -⟩ | ⟨rfl, -⟩ <;> by_cases hl : loop = l <;> simp [hl]
  refine .of_unsent ?_ (fun l => ?_) (fun l => ?_) ?_ (fun l => ?_) ?_ (fun l => ?_) ?_
    hquiet.journal
  · rcases he with ⟨b, v, rfl, -⟩ | ⟨rfl, -⟩ <;> simp
  · rw [hopen l]
    rcases he with ⟨b, v, rfl, -⟩ | ⟨rfl, -⟩ <;> simp
  · rw [hinline]
    rcases he with ⟨b, v, rfl, -⟩ | ⟨rfl, -⟩ <;> simp [List.filterMap_cons]
  · rcases he with ⟨b, v, rfl, -⟩ | ⟨rfl, -⟩ <;> simp
  · rw [hqueue l]
    rcases he with ⟨b, v, rfl, -⟩ | ⟨rfl, -⟩ <;> simp [List.filterMap_cons]
  · rcases he with ⟨b, v, rfl, -⟩ | ⟨rfl, -⟩ <;> simp
  · have hnone : [e].filterMap (Traffic.handedOut? l) = [] := by
      rcases he with ⟨b, v, rfl, -⟩ | ⟨rfl, -⟩ <;> simp [List.filterMap_cons]
    rw [hlist, hnone, List.append_nil]
    exact hdealt l
  · rcases he with ⟨b, v, rfl, hrefused⟩ | ⟨rfl, hfailed⟩
    · cases v with
      | encoded => simp
      | refused => simpa using hrefused rfl
    · simpa using hfailed

/-- Leaving a loop drops what waits in its scope. -/
theorem quiet_leave {task : Nat} {loop : LoopId} {outer : List LoopId} (hm : f.hub.IsMute)
    (h : f.tasks task = loop :: outer) (houter : loop ∉ outer) :
    Hub.Quiet { f.hub with scope := f.scopeOf outer } (f.leave task loop outer).hub ∧
      ∀ c ∈ f.inline loop, c.HasFailed (f.leave task loop outer).hub := by
  have hfree : (f.scopeOf outer).any (·.loop == loop) = false := by
    cases outer with
    | nil => rfl
    | cons l outer =>
        have hne : l ≠ loop := fun heq => houter (heq ▸ List.mem_cons_self)
        simpa [scopeOf] using hne
  have hleave : (f.leave task loop outer).hub =
      { f.hub with scope := f.scopeOf outer }.abandonCommands (f.inline loop) := by
    show (f.hubOf task).leave loop (f.scopeOf outer) = _
    simp only [Hub.leave, hfree, takeInline_hubOf h, Bool.false_eq_true, if_false]
  have hm' : Hub.IsMute { f.hub with scope := f.scopeOf outer } := hm
  rw [hleave]
  exact ⟨.abandonCommands hm' _, Hub.hasFailed_abandonCommands _⟩

/-- The account of a loop that is left, with the events `es`. -/
theorem Conveys.of_left {task : Nat} {loop : LoopId} {outer : List LoopId} (hm : f.hub.IsMute)
    (h : f.tasks task = loop :: outer) (houter : loop ∉ outer)
    (hes : es = .aborted loop :: (f.inline loop).map (.lost loop) ∨ es = [] ∧ f.inline loop = []) :
    f.Conveys es (f.leave task loop outer) := by
  obtain ⟨hquiet, hfailed⟩ := quiet_leave hm h houter
  have hopen (l : LoopId) : (f.leave task loop outer).hub.isOpen l = f.hub.isOpen l :=
    hquiet.isOpen l
  have hqueue (l : LoopId) : (f.leave task loop outer).queue l = f.queue l := hquiet.queue l
  have hinline (l : LoopId) :
      f.inline l = (if loop = l then f.inline loop else []) ++ (f.leave task loop outer).inline l := by
    show _ = _ ++ Function.update f.inline loop [] l
    by_cases hl : loop = l
    · subst hl
      simp
    · rw [if_neg hl, Function.update_of_ne (Ne.symm hl), List.nil_append]
  rcases hes with rfl | ⟨rfl, hnone⟩
  · refine .of_unsent (by simp) (fun l => by rw [hopen l]; simp) (fun l => ?_)
      (fun l hl c hc => ?_)
      (fun l => by rw [hqueue l]; simp [List.filterMap_cons, List.filterMap_map, Function.comp_def])
      (by simp)
      (fun l => by simp [List.filterMap_cons, List.filterMap_map, Function.comp_def, leave])
      (by simpa using hfailed) hquiet.journal
    · rw [hinline l]
      by_cases hl : loop = l <;> simp [List.filterMap_cons, List.filterMap_map, Function.comp_def, hl]
    · simp at hl hc
      exact hl hc.2.symm
  · refine .of_same hqueue hopen (funext fun l => ?_) rfl hquiet.journal
    rw [hinline l, hnone, ite_self, List.nil_append]

/-- The oldest command in the queue of a loop is the next one that is handed out. -/
theorem conveys_receive {loop : LoopId} {c : Command} {h : Hub}
    (hnext : f.hub.nextCommand loop = some (c, h)) :
    f.Conveys [.handedOut loop c]
      { f with hub := h, held := Function.update f.held loop (f.held loop ++ [c]) } := by
  obtain ⟨rest, hqueue, rfl⟩ := Hub.eq_of_nextCommand hnext
  have hloop := Hub.index_lt_of_queue hqueue
  refine .of_unsent (by simp) (fun l => ?_) (fun l => by simp [List.filterMap_cons]) (by simp)
    (fun l => ?_) (by simp) (fun l => ?_) (by simp) List.suffix_rfl
  · have hopen := Hub.isOpen_modifyMailbox f.hub l loop (f := fun m => { m with queue := rest })
      fun _ => rfl
    rw [hopen]
    simp
  · show (f.hub.mailbox l).queue = _ ++ ((f.hub.modifyMailbox loop _).mailbox l).queue
    by_cases hl : l = loop
    · subst hl
      rw [Hub.mailbox_modifyMailbox hloop]
      simpa using hqueue
    · rw [Hub.mailbox_modifyMailbox_of_ne _ hl]
      simp [Ne.symm hl]
  · by_cases hl : l = loop
    · subst hl
      simp [List.filterMap_cons]
    · simp [List.filterMap_cons, Ne.symm hl, Function.update_of_ne hl]

/-- When a queue goes away the commands in it fail. -/
theorem conveys_dropQueue (hm : f.hub.IsMute) (loop : LoopId) :
    f.Conveys (.queueGone loop :: (f.queue loop).map (.discarded loop))
      { f with hub := f.hub.closeMailbox loop } := by
  have hquiet := Hub.Quiet.closeMailbox hm loop
  have hfailed : ∀ c ∈ f.queue loop, c.HasFailed (f.hub.closeMailbox loop) :=
    f.hub.hasFailed_closeMailbox loop
  refine .of_unsent (by simp) (fun l => ?_)
    (fun l => by simp [List.filterMap_cons, List.filterMap_map, Function.comp_def]) (by simp)
    (fun l => ?_) (fun l hl c hc => ?_)
    (fun l => by simp [List.filterMap_cons, List.filterMap_map, Function.comp_def])
    (by simpa using hfailed) hquiet.journal
  · rw [hquiet.isOpen l]
    by_cases hl : l = loop
    · subst hl
      simp [Hub.isOpen_emptied]
    · rw [Hub.emptied, Hub.isOpen_modifyMailbox_of_ne _ hl]
      simp [hl]
  · show f.queue l = _ ++ ((f.hub.closeMailbox loop).mailbox l).queue
    rw [hquiet.queue l]
    by_cases hl : l = loop
    · subst hl
      rw [Hub.queue_emptied]
      simp [List.filterMap_cons, List.filterMap_map, Function.comp_def]
    · rw [Hub.emptied, Hub.mailbox_modifyMailbox_of_ne _ hl]
      simp [List.filterMap_cons, List.filterMap_map, Function.comp_def, Ne.symm hl, queue]
  · simp at hl hc
    exact hl hc.2.symm

variable [Codec κ]

theorem caughtUp_eq {task : Nat} {loop : LoopId} {outer : List LoopId}
    (h : f.tasks task = loop :: outer) (bridge : LoopId) :
    f.caughtUp task bridge = (f.turn task bridge).withOutlet
      ((f.inline loop).foldl Outlet.perform (f.taking task bridge)) := by
  have htaken := congrArg Prod.fst (takeInline_hubOf h)
  rw [caughtUp, htaken]

/-- Performing commands is no traffic, once they have been taken. -/
theorem quiet_caughtUp {task : Nat} {loop : LoopId} {outer : List LoopId} (hm : f.hub.IsMute)
    (h : f.tasks task = loop :: outer) (bridge : LoopId) :
    Hub.Quiet { f.hub with scope := some ⟨loop, []⟩ } (f.caughtUp task bridge).hub := by
  rw [caughtUp_eq h, taking_eq h]
  exact (Outlet.quiet_foldl_perform (o := { (f.turn task bridge).outlet with
    hub := { f.hub with scope := some ⟨loop, []⟩ } }) hm (f.inline loop)).2

theorem id_caughtUp {task : Nat} {loop : LoopId} {outer : List LoopId} (hf : f.IsSound)
    (h : f.tasks task = loop :: outer) (bridge : LoopId) :
    (f.caughtUp task bridge).bridge.id = bridge := by
  rw [caughtUp_eq h, taking_eq h]
  exact (Outlet.quiet_foldl_perform (o := { (f.turn task bridge).outlet with
    hub := { f.hub with scope := some ⟨loop, []⟩ } }) hf.isMute (f.inline loop)).1.trans
      (hf.named bridge)

/-- A bridge that catches up performs what waits inline, where the code that waits for writes sends
nothing. -/
theorem catchUp_turn {task : Nat} {loop : LoopId} {outer : List LoopId} (hm : f.hub.IsMute)
    (h : f.tasks task = loop :: outer) (bridge : LoopId) :
    (f.turn task bridge).catchUp = f.caughtUp task bridge := by
  have hm' : (f.turn task bridge).outlet.hub.IsMute := hm
  have hscope : (f.turn task bridge).outlet.hub.scope = some ⟨loop, f.inline loop⟩ := by
    simp [turn, Turn.outlet, hubOf, scopeOf, h]
  rw [caughtUp_eq h, taking_eq h]
  exact congrArg (f.turn task bridge).withOutlet (Outlet.catchUp_of_isMute hm' hscope)

/-- The commands that wait inline wait no longer when they are performed. -/
theorem conveys_catchUp {task : Nat} {loop : LoopId} {outer : List LoopId}
    (hm : f.hub.IsMute) (h : f.tasks task = loop :: outer) (bridge : LoopId) :
    f.Conveys (.used bridge loop :: (f.taking task bridge).performances loop (f.inline loop))
      (f.put (f.caughtUp task bridge)) := by
  have hquiet := quiet_caughtUp hm h bridge
  have hopen (l : LoopId) : (f.put (f.caughtUp task bridge)).hub.isOpen l = f.hub.isOpen l :=
    hquiet.isOpen l
  have hqueue (l : LoopId) : (f.put (f.caughtUp task bridge)).queue l = f.queue l := hquiet.queue l
  have hevents {e : Traffic}
      (he : e ∈ .used bridge loop :: (f.taking task bridge).performances loop (f.inline loop)) :
      e = .used bridge loop ∨ ∃ b c v, e = .performed b loop c v := by
    rcases List.mem_cons.mp he with rfl | he
    · exact .inl rfl
    · obtain ⟨c, -, v, rfl⟩ := Outlet.mem_performances he
      exact .inr ⟨_, c, v, rfl⟩
  have hnothing {other : LoopId → Traffic → Option Command} {l : LoopId}
      (hused : ∀ b m, other l (.used b m) = none)
      (hperformed : ∀ b m c v, other l (.performed b m c v) = none) :
      (.used bridge loop :: (f.taking task bridge).performances loop (f.inline loop)).filterMap
        (other l) = [] := by
    refine List.filterMap_eq_nil_iff.mpr fun e he => ?_
    rcases hevents he with rfl | ⟨b, c, v, rfl⟩
    · exact hused _ _
    · exact hperformed _ _ _ _
  refine .of_unsent (fun o l c p he => ?_) (fun l => ?_) (fun l => ?_) (fun l _ c he => ?_)
    (fun l => ?_) (fun l _ c he => ?_) (fun l => ?_) (fun e he c hc => ?_) hquiet.journal
  · rcases hevents he with heq | ⟨_, _, _, heq⟩ <;> cases heq
  · rw [hopen l, and_iff_left]
    intro he
    rcases hevents he with heq | ⟨_, _, _, heq⟩ <;> cases heq
  · show _ = _ ++ (f.withHub _).inline l
    rw [inline_withHub_some hquiet.scope, List.filterMap_cons, Outlet.leftInline_performances]
    by_cases hl : loop = l
    · subst hl
      simp
    · simp [hl, Function.update_of_ne (Ne.symm hl)]
  · rcases hevents he with heq | ⟨_, _, _, heq⟩ <;> cases heq
  · rw [hqueue l, hnothing (fun _ _ => rfl) fun _ _ _ _ => rfl, List.nil_append]
  · rcases hevents he with heq | ⟨_, _, _, heq⟩ <;> cases heq
  · rw [hnothing (fun _ _ => rfl) fun _ _ _ _ => rfl, hnothing (fun _ _ => rfl) fun _ _ _ _ => rfl,
      List.append_nil]
    exact .refl _
  · rcases List.mem_cons.mp he with rfl | he
    · cases hc
    · obtain ⟨c', -, v, rfl⟩ := Outlet.mem_performances he
      cases v with
      | encoded => cases hc
      | refused =>
          cases hc
          show c.HasFailed (f.caughtUp task bridge).hub
          rw [caughtUp_eq h]
          refine Outlet.hasFailed_of_refused ?_ he
          rw [taking_eq h]
          exact hm

theorem quiet_perform (hm : f.hub.IsMute) (task : Nat) (loop : LoopId) (c : Command) :
    ((f.turn task loop).onOutlet (·.perform c)).bridge.id = (f.bridges loop).id ∧
      (f.hubOf task).Quiet ((f.turn task loop).onOutlet (·.perform c)).hub := by
  have hm' : (f.hubOf task).IsMute := hm
  exact (Outlet.mild_quiet (f.bridges loop).id hm').perform c
    (o := (f.turn task loop).outlet) ⟨rfl, .refl _⟩

/-- A step accounts for every command. -/
theorem conveys_step (hf : f.IsSound) (h : f.Step es g) : f.Conveys es g := by
  have hm := hf.isMute
  cases h with
  | quiet task hquiet =>
      exact .of_quiet hquiet (inline_withHub (f.tasks task) hquiet.scope) rfl
  | send task target offLoop c => exact conveys_send hm task target offLoop c
  | enter task loop hloop =>
      have hinline : Function.update f.inline loop [] = f.inline := by
        rw [← hf.idle loop hloop, Function.update_eq_self]
      exact .of_same (fun _ => rfl) (fun _ => rfl) hinline rfl List.suffix_rfl
  | catchUp task bridge h => exact conveys_catchUp hm h bridge
  | @apply task bridge _ _ loop c hc =>
      have hquiet := (quiet_perform hm task bridge c).2
      refine .of_dealt hquiet (inline_withHub (f.tasks task) hquiet.scope) hc rfl
        (.inl ⟨bridge, _, rfl, fun hrefused => ?_⟩)
      have hfault : (f.turn task bridge).outlet.channel.hasFault = true := by
        simpa [Outlet.verdict] using hrefused
      show c.HasFailed ((f.turn task bridge).outlet.perform c).hub
      rw [Outlet.perform_of_fault hfault]
      exact Hub.hasFailed_abandon _ c
  | @back task loop outer h hsettled =>
      have houter : loop ∉ outer := (List.nodup_cons.mp (h ▸ hf.nodup task)).1
      have hnone : f.inline loop = [] := by
        have hall := (Bool.and_eq_true _ _ ▸ hsettled).2
        simpa [turn, hubOf, scopeOf, h] using hall
      exact .of_left hm h houter (.inr ⟨rfl, hnone⟩)
  | @abort task loop outer h =>
      have houter : loop ∉ outer := (List.nodup_cons.mp (h ▸ hf.nodup task)).1
      exact .of_left hm h houter (.inl rfl)
  | receive loop hnext => exact conveys_receive hnext
  | @drop loop c hc =>
      have hquiet : f.hub.Quiet (f.hub.abandon c.promise) := .resolve hm _
      exact .of_dealt (s := f.hub.scope) hquiet rfl hc rfl (.inr ⟨rfl, Hub.hasFailed_abandon _ c⟩)
  | dropQueue loop => exact conveys_dropQueue hm loop

/-- Only events of a kind come of catching up. -/
theorem mem_catchUp {task : Nat} {bridge loop : LoopId} {cs : List Command} {e : Traffic}
    (hf : f.IsSound) (h : e ∈ .used bridge loop :: (f.taking task bridge).performances loop cs) :
    e = .used bridge loop ∨ e ∈ (f.taking task bridge).performances loop cs ∧
      ∃ c ∈ cs, ∃ v, e = .performed bridge loop c v := by
  rcases List.mem_cons.mp h with rfl | h
  · exact .inl rfl
  · obtain ⟨c, hc, v, rfl⟩ := Outlet.mem_performances h
    have hhome : (f.taking task bridge).home = bridge := hf.named bridge
    rw [hhome] at h ⊢
    exact .inr ⟨h, c, hc, v, rfl⟩

theorem serves_catchUp (hf : f.IsSound) {task : Nat} {loop : LoopId} {outer : List LoopId}
    (h : f.tasks task = loop :: outer) (b : LoopId) :
    f.Serves b (.used b loop :: (f.taking task b).performances loop (f.inline loop))
      (f.put (f.caughtUp task b)) := by
  have hid := id_caughtUp hf h b
  have htaken : (f.taking task b).HasCalled b (f.hub.codecCalls b) := by
    rw [taking_eq h]
    exact ⟨hf.named b, rfl⟩
  have hput : (f.put (f.caughtUp task b)).hub =
      ((f.inline loop).foldl Outlet.perform (f.taking task b)).hub := by
    show (f.caughtUp task b).hub = _
    rw [caughtUp_eq h]
    rfl
  refine ⟨?_, fun hfault => ?_, fun {l c} he => ?_, fun other hne => ⟨bridges_put hid hne, ?_⟩⟩
  · obtain ⟨made, hmade, hwriting, hencoded⟩ :=
      Outlet.hasCalled_performances loop (f.inline loop) htaken
    refine ⟨made, ?_, hwriting, hencoded⟩
    rw [hput]
    exact hmade.2
  · refine List.filterMap_eq_nil_iff.mpr fun e he => ?_
    rcases List.mem_cons.mp he with rfl | he
    · rfl
    · obtain ⟨c, rfl⟩ := (f.taking task b).performances_of_fault hfault he
      rfl
  · have hrefused : .performed b l c .refused ∈
        (f.taking task b).performances loop (f.inline loop) := by
      rcases he with he | he
      · rcases mem_catchUp hf he with heq | ⟨he, -⟩
        · cases heq
        · exact he
      · rcases mem_catchUp hf he with heq | ⟨-, _, -, _, heq⟩ <;> cases heq
    have hloop : l = loop := by
      obtain ⟨_, -, _, heq⟩ := Outlet.mem_performances hrefused
      exact (Traffic.performed.inj heq).2.1
    rw [bridges_put_self hid, caughtUp_eq h]
    exact Outlet.hasFault_of_refused (hloop ▸ hrefused)
  · have hspares := (Outlet.steady_elsewhere (κ := κ) hne.symm (f.hub.codecCalls other)).mild
    have hstart : (f.taking task b).hub.codecCalls other = f.hub.codecCalls other := by
      rw [taking_eq h]
      rfl
    have hcalls := List.foldlRecOn (f.inline loop) Outlet.perform
      (motive := fun o => o.home = b ∧ o.hub.codecCalls other = f.hub.codecCalls other)
      (b := f.taking task b) ⟨htaken.1, hstart⟩ fun _ hp c _ => hspares.perform c hp
    rw [hput]
    exact hcalls.2

theorem serves_apply (hf : f.IsSound) (task : Nat) (b l : LoopId) (c : Command)
    (held : LoopId → List Command) :
    f.Serves b [.applied b l c (f.turn task b).outlet.verdict]
      { f.put ((f.turn task b).onOutlet (·.perform c)) with held } := by
  have hid := (quiet_perform hf.isMute task b c).1.trans (hf.named b)
  have hcalled : (f.turn task b).outlet.HasCalled b (f.hub.codecCalls b) := ⟨hf.named b, rfl⟩
  refine ⟨?_, fun hfault => ?_, fun {m c'} he => ?_, fun other hne => ⟨bridges_put hid hne, ?_⟩⟩
  · obtain ⟨made, hmade, hwriting, hencoded⟩ := Outlet.hasCalled_perform c hcalled
    refine ⟨made, hmade.2, hwriting, hencoded.trans ?_⟩
    unfold Outlet.verdict
    cases (f.turn task b).outlet.channel.hasFault <;> simp
  · have hfault' : (f.turn task b).outlet.channel.hasFault = true := hfault
    simp [Outlet.verdict, hfault']
  · have hfault : (f.turn task b).outlet.channel.hasFault = true := by
      rcases he with he | he
      · simp at he
      · have hverdict := (Traffic.applied.inj (List.mem_singleton.mp he)).2.2.2
        simpa [Outlet.verdict] using hverdict.symm
    show ((f.put ((f.turn task b).onOutlet (·.perform c))).bridges b).channel.hasFault = true
    rw [bridges_put_self hid]
    show ((f.turn task b).outlet.perform c).channel.hasFault = true
    rw [Outlet.perform_of_fault hfault]
    exact hfault
  · have hspares := (Outlet.steady_elsewhere (κ := κ) hne.symm (f.hub.codecCalls other)).mild
    exact (hspares.perform c (o := (f.turn task b).outlet) ⟨hf.named b, rfl⟩).2

/-- Where commands are performed or applied, just the codec of the bridge that does it is called for
them. -/
theorem serves_step (hf : f.IsSound) (h : f.Step es g) {b l : LoopId}
    (hb : .used b l ∈ es ∨ ∃ c v, .applied b l c v ∈ es) : f.Serves b es g := by
  cases h with
  | catchUp task bridge h =>
      obtain rfl : b = bridge := by
        rcases hb with hb | ⟨c, v, hb⟩
        · rcases mem_catchUp hf hb with heq | ⟨-, _, -, _, heq⟩
          · exact (Traffic.used.inj heq).1
          · cases heq
        · rcases mem_catchUp hf hb with heq | ⟨-, _, -, _, heq⟩ <;> cases heq
      exact serves_catchUp hf h b
  | @apply task bridge outer h loop c hc =>
      obtain rfl : b = bridge := by
        rcases hb with hb | ⟨c', v, hb⟩
        · simp at hb
        · exact (Traffic.applied.inj (List.mem_singleton.mp hb)).1
      exact serves_apply hf task b loop c _
  | quiet | send | enter | back | abort | receive | drop | dropQueue => simp at hb

/-- Whoever performs commands uses a writer. -/
theorem used_of_performed (hf : f.IsSound) (h : f.Step es g) {b l : LoopId} {c : Command}
    {v : Verdict} (hc : .performed b l c v ∈ es) : .used b l ∈ es := by
  cases h with
  | catchUp task bridge h =>
      rcases mem_catchUp hf hc with heq | ⟨-, _, -, _, heq⟩
      · cases heq
      · cases heq
        exact List.mem_cons_self
  | quiet | send | enter | apply | back | abort | receive | drop | dropQueue => simp at hc

/-- Among the calls that a codec gets in a step are those for the commands that its bridge performs
and applies. -/
theorem calls_step (hf : f.IsSound) (h : f.Step es g) (b : LoopId) :
    ∃ made, g.hub.codecCalls b = f.hub.codecCalls b ++ made ∧
      (es.filterMap (Traffic.encoded? b)).Sublist (made.filterMap CodecCall.encoded?) := by
  have hnone (hes : es.filterMap (Traffic.encoded? b) = []) :
      ∃ made, g.hub.codecCalls b = f.hub.codecCalls b ++ made ∧
        (es.filterMap (Traffic.encoded? b)).Sublist (made.filterMap CodecCall.encoded?) := by
    obtain ⟨made, hmade⟩ := (conveys_step hf h).codecCalls b
    exact ⟨made, hmade.symm, hes ▸ List.nil_sublist _⟩
  cases h with
  | @catchUp task bridge loop outer htasks =>
      by_cases hb : bridge = b
      · subst hb
        obtain ⟨made, hmade, -, hencoded⟩ := (serves_catchUp hf htasks bridge).encodes
        exact ⟨made, hmade, hencoded ▸ .refl _⟩
      · refine hnone (List.filterMap_eq_nil_iff.mpr fun e he => ?_)
        rcases mem_catchUp hf he with rfl | ⟨-, c, -, v, rfl⟩
        · rfl
        · cases v <;> simp [hb]
  | @apply task bridge outer htasks loop c hc =>
      by_cases hb : bridge = b
      · subst hb
        obtain ⟨made, hmade, -, hencoded⟩ := (serves_apply hf task bridge loop c
          (Function.update f.held loop ((f.held loop).erase c))).encodes
        exact ⟨made, hmade, hencoded ▸ .refl _⟩
      · refine hnone ?_
        cases (f.turn task bridge).outlet.verdict <;> simp [List.filterMap_cons, hb]
  | quiet | send | enter | back | receive | drop => exact hnone (by simp [List.filterMap_cons])
  | abort | dropQueue =>
      exact hnone (by simp [List.filterMap_cons, List.filterMap_map, Function.comp_def])

/-! ### What holds between two steps -/

/-- Only the task that runs a loop innermost changes what waits inline there, and it does not enter
another loop at the same time. -/
theorem inline_cases (hf : f.IsSound) (h : f.Step es g) (l : LoopId) :
    g.inline l = f.inline l ∨
      ∃ i outer, f.tasks i = l :: outer ∧ (g.tasks i = l :: outer ∨ g.tasks i = outer) := by
  cases h with
  | quiet task hquiet =>
      exact .inl (congrFun (inline_withHub (f.tasks task) hquiet.scope) l)
  | send task target offLoop c =>
      rw [inline_send hf.isMute]
      by_cases hl : target = l ∧ (f.hubOf task).place target offLoop = .inline
      · obtain ⟨rfl, hplace⟩ := hl
        obtain ⟨outer, htasks⟩ := tasks_of_origin (Place.of_eq_inline.mp hplace)
        exact .inr ⟨task, outer, htasks, .inl htasks⟩
      · rw [if_neg hl, List.append_nil]
        exact .inl rfl
  | enter task loop hloop =>
      left
      by_cases hl : l = loop
      · subst hl
        exact (Function.update_self ..).trans (hf.idle l hloop).symm
      · exact Function.update_of_ne hl ..
  | @catchUp task bridge loop outer h =>
      by_cases hl : l = loop
      · subst hl
        exact .inr ⟨task, outer, h, .inl h⟩
      · left
        show (f.withHub _).inline l = _
        rw [inline_withHub_some (quiet_caughtUp hf.isMute h bridge).scope]
        exact Function.update_of_ne hl ..
  | @apply task bridge _ _ _ c =>
      have hquiet := (quiet_perform hf.isMute task bridge c).2
      exact .inl (congrFun (inline_withHub (f.tasks task) hquiet.scope) l)
  | @back task loop outer h | @abort task loop outer h =>
      by_cases hl : l = loop
      · subst hl
        exact .inr ⟨task, outer, h, .inr (Function.update_self ..)⟩
      · exact .inl (Function.update_of_ne hl ..)
  | receive | drop | dropQueue => exact .inl rfl

/-- The code that waits for writes stays what it is, or has run. -/
theorem isMute_step (hf : f.IsSound) (h : f.Step es g) : g.hub.IsMute := by
  have hm := hf.isMute
  cases h with
  | quiet task hquiet => exact hquiet.isMute hm
  | send task target offLoop c => exact Hub.isMute_send (h := f.hubOf task) hm target offLoop c
  | enter => exact hm
  | catchUp task bridge h => exact (quiet_caughtUp hm h bridge).isMute hm
  | @apply task bridge _ _ _ c => exact (quiet_perform hm task bridge c).2.isMute hm
  | @back task loop outer h | @abort task loop outer h =>
      have houter : loop ∉ outer := (List.nodup_cons.mp (h ▸ hf.nodup task)).1
      exact (quiet_leave hm h houter).1.isMute hm
  | receive loop hnext =>
      obtain ⟨rest, -, rfl⟩ := Hub.eq_of_nextCommand hnext
      exact hm
  | drop => exact (Hub.Quiet.resolve hm _).isMute hm
  | dropQueue loop => exact (Hub.Quiet.closeMailbox hm loop).isMute hm

/-- A step changes the loops of one task at most: it enters a loop that nobody runs, or leaves its
innermost one with nothing inside. -/
theorem tasks_cases (h : f.Step es g) :
    ∃ task, (∀ i, i ≠ task → g.tasks i = f.tasks i) ∧
      (g.tasks task = f.tasks task ∨
        (∃ loop, ¬ f.IsRunning loop ∧ g.tasks task = loop :: f.tasks task) ∨
        ∃ loop, f.tasks task = loop :: g.tasks task ∧ g.inline loop = []) := by
  cases h with
  | quiet | send | catchUp | apply | receive | drop | dropQueue =>
      exact ⟨0, fun _ _ => rfl, .inl rfl⟩
  | enter task loop h =>
      refine ⟨task, fun i hi => Function.update_of_ne hi .., .inr (.inl ⟨loop, h, ?_⟩)⟩
      exact Function.update_self ..
  | @back task loop outer h | @abort task loop outer h =>
      refine ⟨task, fun i hi => Function.update_of_ne hi .., .inr (.inr ⟨loop, ?_, ?_⟩)⟩
      · exact h.trans (congrArg _ (Function.update_self task outer f.tasks).symm)
      · exact Function.update_self ..

/-- A loop that no task runs has nothing waiting inline. -/
theorem idle_step (hf : f.IsSound) (h : f.Step es g) {l : LoopId} (hfree : ¬ g.IsRunning l) :
    g.inline l = [] := by
  by_cases hbefore : f.IsRunning l
  · -- The loop was left just now.
    obtain ⟨i, hi⟩ := hbefore
    have hgone : l ∉ g.tasks i := fun hmem => hfree ⟨i, hmem⟩
    obtain ⟨task, hothers, hsame | ⟨loop, -, henter⟩ | ⟨loop, hleft, hnone⟩⟩ := tasks_cases h
    · by_cases hti : i = task
      · exact absurd (hti ▸ hsame ▸ hti ▸ hi) hgone
      · exact absurd (hothers i hti ▸ hi) hgone
    · by_cases hti : i = task
      · subst hti
        rw [henter] at hgone
        exact absurd (List.mem_cons_of_mem loop hi) hgone
      · exact absurd (hothers i hti ▸ hi) hgone
    · by_cases hti : i = task
      · subst hti
        rw [hleft] at hi
        obtain rfl := (List.mem_cons.mp hi).resolve_right hgone
        exact hnone
      · exact absurd (hothers i hti ▸ hi) hgone
  · rcases inline_cases hf h l with hsame | ⟨i, outer, hl, -⟩
    · rw [hsame, hf.idle l hbefore]
    · exact absurd (isRunning_of_tasks hl) hbefore

/-- Where there is no queue no command waits. -/
theorem shut_step (hf : f.IsSound) (h : f.Step es g) {l : LoopId}
    (hshut : g.hub.isOpen l = false) : g.queue l = [] := by
  have hconveys := conveys_step hf h
  cases hopen : f.hub.isOpen l with
  | false =>
      have hqueue := hconveys.queue l
      rw [hf.shut l hopen, hconveys.sent_of_shut hopen] at hqueue
      exact (List.append_eq_nil_iff.mp hqueue.symm).2
  | true =>
      -- Only a queue that goes away shuts, and it is empty then.
      have hgone : .queueGone l ∈ es := by
        by_contra hgone
        rw [(hconveys.isOpen l).mpr ⟨hopen, hgone⟩] at hshut
        cases hshut
      cases h with
      | dropQueue loop =>
          obtain rfl : l = loop := by simpa using hgone
          have hqueue := hconveys.queue l
          simpa [List.filterMap_cons, List.filterMap_map, Function.comp_def] using hqueue
      | catchUp task bridge h =>
          rcases mem_catchUp hf hgone with heq | ⟨-, _, -, _, heq⟩ <;> cases heq
      | quiet | send | enter | apply | back | abort | receive | drop => simp at hgone

/-- A step keeps what holds between two steps. -/
theorem isSound_step (hf : f.IsSound) (h : f.Step es g) : g.IsSound where
  isMute := isMute_step hf h
  named := by
    cases h with
    | quiet _ | catchUp | apply => exact named_put hf.named _
    | send | enter | back | abort | receive | drop | dropQueue => exact hf.named
  shut _ hshut := shut_step hf h hshut
  idle _ hfree := idle_step hf h hfree
  alone {i j l} hi hj := by
    obtain ⟨task, hothers, hcase⟩ := tasks_cases h
    have hold (k : Nat) (hk : l ∈ g.tasks k) : l ∈ f.tasks k ∨ k = task ∧ ¬ f.IsRunning l := by
      by_cases hkt : k = task
      · subst hkt
        rcases hcase with hsame | ⟨loop, hfree, henter⟩ | ⟨loop, hleft, -⟩
        · exact .inl (hsame ▸ hk)
        · rw [henter] at hk
          rcases List.mem_cons.mp hk with rfl | hk
          · exact .inr ⟨rfl, hfree⟩
          · exact .inl hk
        · rw [hleft]
          exact .inl (List.mem_cons_of_mem loop hk)
      · exact .inl (hothers k hkt ▸ hk)
    rcases hold i hi with hi | ⟨rfl, hfree⟩
    · rcases hold j hj with hj | ⟨rfl, hfree⟩
      · exact hf.alone hi hj
      · exact absurd ⟨i, hi⟩ hfree
    · rcases hold j hj with hj | ⟨rfl, -⟩
      · exact absurd ⟨j, hj⟩ hfree
      · rfl
  nodup i := by
    obtain ⟨task, hothers, hcase⟩ := tasks_cases h
    by_cases hti : i = task
    · subst hti
      rcases hcase with hsame | ⟨loop, hfree, henter⟩ | ⟨loop, hleft, -⟩
      · exact hsame ▸ hf.nodup i
      · rw [henter]
        exact List.nodup_cons.mpr ⟨fun hmem => hfree ⟨i, hmem⟩, hf.nodup i⟩
      · exact (List.nodup_cons.mp (hleft ▸ hf.nodup i)).2
    · exact hothers i hti ▸ hf.nodup i

end FrameBridge.Fleet
