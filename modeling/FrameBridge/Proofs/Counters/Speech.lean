import FrameBridge.Proofs.Calls.Order
import FrameBridge.Proofs.Law.Deed

/-!
# What a run says to the application

A run of a bridge makes calls to its application one after the other, and a panic comes out of the
last of them.  So if all calls of a run are of one kind, a run that ends in a panic ends in a call
of that kind.
-/

namespace FrameBridge

/-- A call in which the connection is told of an error. -/
def Call.isErrorNews : Call → Bool
  | .told (.connectionError _) | .told (.streamError ..) => true
  | .created | .told _ | .hooked .. => false

namespace Turn

variable {κ σ δ : Type}

/-- The calls that the bridge has made so far, oldest first. -/
def calls (t : Turn κ σ δ) : List Call := t.hub.calls t.bridge.id

theorem calls_of_view {t t' : Turn κ σ δ} (h : t'.view = t.view) : t'.calls = t.calls :=
  congrArg (fun v : View => v.story.calls) h

theorem calls_record (t : Turn κ σ δ) (e : Entry) :
    (t.record e).calls = t.calls ++ e.call?.toList :=
  congrArg (fun v : View => v.story.calls) (t.view_record e)

/-- A run makes calls of one kind only, and stops, if at all, in a panic that comes out of one of
them. -/
structure Says (p : Call → Prop) (t : Turn κ σ δ) (r : Run (Turn κ σ δ)) : Prop where
  made : ∃ new, r.state.calls = t.calls ++ new ∧ (∀ c ∈ new, p c) ∧ (r.stop ≠ none → new ≠ [])
  stop : r.stop ≠ some .unsettled

namespace Says

variable {p : Call → Prop} {t : Turn κ σ δ} {r : Run (Turn κ σ δ)}

theorem done {t' : Turn κ σ δ} (h : t'.calls = t.calls) : Says p t (.done t') where
  made := ⟨[], by rw [List.append_nil]; exact h, fun _ hc => absurd hc List.not_mem_nil,
    fun hstop => absurd rfl hstop⟩
  stop := nofun

theorem length_le (h : Says p t r) : t.calls.length ≤ r.state.calls.length := by
  obtain ⟨new, hnew, -⟩ := h.made
  rw [hnew, List.length_append]
  omega

theorem map {f : Turn κ σ δ → Turn κ σ δ} (h : Says p t r) (hf : ∀ t, (f t).calls = t.calls) :
    Says p t (r.map f) where
  made := by
    obtain ⟨new, hnew, hkind, hlast⟩ := h.made
    exact ⟨new, (hf r.state).trans hnew, hkind, hlast⟩
  stop := h.stop

theorem andThen {f : Turn κ σ δ → Run (Turn κ σ δ)} (h : Says p t r)
    (hf : ∀ t', Says p t' (f t')) : Says p t (r.andThen f) := by
  refine Run.cases_andThen (fun _ => h) fun _ => ⟨?_, (hf r.state).stop⟩
  obtain ⟨new, hnew, hkind, -⟩ := h.made
  obtain ⟨more, hmore, hkind', hlast⟩ := (hf r.state).made
  refine ⟨new ++ more, by rw [hmore, hnew, List.append_assoc], ?_, ?_⟩
  · intro c hc
    exact (List.mem_append.mp hc).elim (hkind c) (hkind' c)
  · intro hstop hnil
    exact hlast hstop (List.append_eq_nil_iff.mp hnil).2

/-- A run that starts later by something that is no call. -/
theorem of_calls {t' : Turn κ σ δ} (h : Says p t' r) (hcalls : t'.calls = t.calls) :
    Says p t r where
  made := hcalls ▸ h.made
  stop := h.stop

end Says

variable [Codec κ] {p : Call → Prop}

/-- Application code belongs to the call in which it runs. -/
theorem says_program {e : Entry} {c : Call} (he : e.call? = some c) (hc : p c) (hasWriter : Bool)
    (now : StreamId) (actions : List Action) {t t' : Turn κ σ δ} (ht : t'.calls = (t.record e).calls) :
    Says p t (t'.program hasWriter now actions) where
  made := by
    refine ⟨[c], ?_, fun x hx => ?_, fun _ => List.cons_ne_nil c []⟩
    · rw [calls_of_view (view_program hasWriter now actions t'), ht, calls_record, he]
      rfl
    · rw [List.mem_singleton.mp hx]
      exact hc
  stop := stop_program hasWriter now actions t'

theorem says_runHooks (kind : HookKind) (hp : ∀ i, p (.hooked kind i)) (hooks : List (List Action))
    (index : Nat) (t : Turn κ σ δ) : Says p t (runHooks kind index hooks t) := by
  induction hooks generalizing index t with
  | nil => exact .done rfl
  | cons hook hooks ih =>
      exact (says_program (e := .hook kind index) rfl (hp index) false .connection hook rfl).andThen
        fun t' => ih (index + 1) t'

variable [Connection σ]

theorem says_callback {c : Callback} (hc : p (.told c)) (connection : σ) (t : Turn κ σ δ) :
    Says p t (t.callback connection c).2 := by
  unfold callback
  refine says_program (e := .callback c) rfl hc _ _ _ ?_
  cases c with
  | frame f =>
      simp only
      split
      · rfl
      · rfl
  | _ => rfl

theorem says_tell {c : Callback} (hc : p (.told c)) (t : Turn κ σ δ) : Says p t (t.tell c) := by
  unfold tell
  split
  · exact .done rfl
  · exact (says_callback hc _ t).map fun _ => rfl

theorem says_handOver {c : Callback} (hc : p (.told c)) (t : Turn κ σ δ) :
    Says p t (t.handOver c) := by
  have hrecord : (t.record .handedOver).calls = t.calls := by
    rw [calls_record]
    exact List.append_nil _
  unfold handOver
  split
  · exact .done rfl
  · simp only
    split
    · exact (says_tell hc (t.record .handedOver)).of_calls hrecord
    · exact .done hrecord

theorem says_establish (hp : ∀ c : Call, c.isErrorNews = false → p c) (blueprint : σ)
    (s : Settings) (t : Turn κ σ δ) : Says p t (t.establish blueprint s) := by
  unfold establish
  refine Says.andThen (says_program (e := .created) rfl (hp _ rfl) _ _ _ rfl) fun t' => ?_
  refine Says.andThen (Says.andThen ?_ fun t => ?_) fun t => .done rfl
  · refine Says.of_calls (says_callback (hp _ rfl) blueprint _) ?_
    exact calls_of_view (view_advance (by decide) _)
  · exact says_runHooks .established (fun _ => hp _ rfl) _ 0 t

theorem says_announce (e : ProtocolError) (t : Turn κ σ δ) :
    Says (·.isErrorNews = true) t (t.announce e) := by
  have htold {c : Callback} (hc : (Call.told c).isErrorNews = true) (n : Notice) :
      Says (·.isErrorNews = true) t ((t.notice n).handOver c) :=
    (says_handOver (p := fun c => c.isErrorNews = true) hc (t.notice n)).of_calls rfl
  cases e with
  | stream s c m => exact htold rfl _
  | connection c m => exact htold rfl _

theorem says_sayGoodbye (t : Turn κ σ δ) : Says (·.isErrorNews = false) t t.sayGoodbye := by
  unfold sayGoodbye
  split
  · have htold : Says (·.isErrorNews = false) t (t.handOver .closed) :=
      says_handOver (p := fun c => c.isErrorNews = false) rfl t
    exact htold.andThen fun t' => says_runHooks .removed (fun _ => rfl) _ 0 t'
  · exact .done rfl

end Turn

end FrameBridge
