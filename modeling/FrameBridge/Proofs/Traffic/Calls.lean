import FrameBridge.Proofs.Fault.Handling
import FrameBridge.Proofs.Traffic.Fleet

/-!
# What performing comes to

A bridge that performs commands asks its codec to encode each of them, in order, and perhaps to
drain it after data.  If this leaves a fault the commands that follow are refused: the codec does
not hear of them, and whoever watches them is told that they failed.
-/

namespace FrameBridge

namespace Outlet

variable {κ : Type} [Codec κ] {o : Outlet κ} {home loop : LoopId} {calls : List CodecCall}

/-- What follows the encoding of a frame is at most a drain. -/
theorem hasCalled_afterEncoding (c : Command) (h : o.HasCalled home calls) :
    ∃ drains, (o.afterEncoding c).HasCalled home (calls ++ drains) ∧
      ∀ call ∈ drains, ∃ r, call = .drain r := by
  have hnone : o.HasCalled home (calls ++ []) := (List.append_nil calls).symm ▸ h
  cases c with
  | pushPromise s promised hs p => exact ⟨[], hnone, by simp⟩
  | data s d ends =>
      simp only [afterEncoding]
      split
      · have hcall := hasCalled_call .drain (Codec.drain o.codec) h
        have hdrain : o.drain.HasCalled home (calls ++ [.drain (Codec.drain o.codec).result]) := by
          unfold drain
          rcases hr : o.call .drain (Codec.drain o.codec) with ⟨_ | _, o'⟩
          · rw [hr] at hcall
            exact hcall
          · rw [hr] at hcall
            exact hcall
        exact ⟨_, hasCalled_flush hdrain, by simp⟩
      · exact ⟨[], hasCalled_flush hnone, by simp⟩
  | headers | ping | frame | reset | goAway | settings =>
      exact ⟨[], hasCalled_flush hnone, by simp⟩

/-- The write of a command asks the codec to encode its frame, unless a fault waits. -/
theorem hasCalled_perform (c : Command) (h : o.HasCalled home calls) :
    ∃ made, (o.perform c).HasCalled home (calls ++ made) ∧ (∀ call ∈ made, call.IsWriting) ∧
      made.filterMap CodecCall.encoded? = if o.channel.hasFault then [] else [c.outgoing] := by
  unfold perform
  split
  · refine ⟨[], ⟨h.1, ?_⟩, by simp, rfl⟩
    rw [List.append_nil]
    exact (Hub.law_codecCalls home calls).abandon (.of (c.promise :: []) h.2)
  · have hencode : (o.encode c.outgoing c.promise).HasCalled home
        (calls ++ [.encode c.outgoing]) := hasCalled_call _ _ h
    obtain ⟨drains, hafter, hdrains⟩ := hasCalled_afterEncoding c hencode
    refine ⟨.encode c.outgoing :: drains, ?_, ?_, ?_⟩
    · rwa [List.append_assoc] at hafter
    · intro call hcall
      rcases List.mem_cons.mp hcall with rfl | hcall
      · trivial
      · obtain ⟨r, rfl⟩ := hdrains call hcall
        trivial
    · have hnone : drains.filterMap CodecCall.encoded? = [] := by
        refine List.filterMap_eq_nil_iff.mpr fun call hcall => ?_
        obtain ⟨r, rfl⟩ := hdrains call hcall
        rfl
      rw [List.filterMap_cons, hnone]
      rfl

theorem home_perform (o : Outlet κ) (c : Command) : (o.perform c).home = o.home := by
  obtain ⟨made, hcalled, -⟩ := hasCalled_perform c (o := o) ⟨rfl, rfl⟩
  exact hcalled.1

/-- Only commands that were taken are performed, and by the bridge that took them. -/
theorem mem_performances {cs : List Command} {e : Traffic} (h : e ∈ o.performances loop cs) :
    ∃ c ∈ cs, ∃ v, e = .performed o.home loop c v := by
  induction cs generalizing o with
  | nil => cases h
  | cons c cs ih =>
      rcases List.mem_cons.mp h with rfl | h
      · exact ⟨c, List.mem_cons_self, _, rfl⟩
      · obtain ⟨c', hc', v, rfl⟩ := ih h
        exact ⟨c', List.mem_cons_of_mem c hc', v, by rw [home_perform]⟩

/-- What is performed waits inline no longer. -/
theorem leftInline_performances (cs : List Command) (l : LoopId) :
    (o.performances loop cs).filterMap (Traffic.leftInline? l) = if loop = l then cs else [] := by
  induction cs generalizing o with
  | nil => simp [performances]
  | cons c cs ih =>
      rw [performances, List.filterMap_cons, ih]
      by_cases hl : loop = l <;> simp [hl]

/-- The codec is called to encode the commands that are not refused, in order. -/
theorem hasCalled_performances (loop : LoopId) (cs : List Command) (h : o.HasCalled home calls) :
    ∃ made, (cs.foldl perform o).HasCalled home (calls ++ made) ∧
      (∀ call ∈ made, call.IsWriting) ∧
      made.filterMap CodecCall.encoded? =
        (o.performances loop cs).filterMap (Traffic.encoded? home) := by
  induction cs generalizing o calls with
  | nil => exact ⟨[], (List.append_nil calls).symm ▸ h, by simp, rfl⟩
  | cons c cs ih =>
      obtain ⟨first, hfirst, hwriting, hencoded⟩ := hasCalled_perform c h
      obtain ⟨rest, hrest, hwriting', hencoded'⟩ := ih hfirst
      refine ⟨first ++ rest, ?_, ?_, ?_⟩
      · rwa [← List.append_assoc]
      · intro call hcall
        exact (List.mem_append.mp hcall).elim (hwriting call) (hwriting' call)
      · rw [List.filterMap_append, hencoded, hencoded', performances, List.filterMap_cons]
        unfold verdict
        cases o.channel.hasFault <;> simp [h.1]

/-! ### Refusals -/

theorem perform_of_fault (h : o.channel.hasFault = true) (c : Command) :
    o.perform c = o.abandon c.promise := if_pos h

theorem hasFault_foldl_perform (h : o.channel.hasFault = true) (cs : List Command) :
    (cs.foldl perform o).channel.hasFault = true := by
  induction cs generalizing o with
  | nil => exact h
  | cons c cs ih =>
      have hnext : (o.perform c).channel.hasFault = true := by
        rw [perform_of_fault h]
        exact h
      exact ih hnext

/-- While a fault waits all is refused. -/
theorem performances_of_fault (h : o.channel.hasFault = true) {cs : List Command} {e : Traffic}
    (he : e ∈ o.performances loop cs) : ∃ c, e = .performed o.home loop c .refused := by
  induction cs generalizing o with
  | nil => cases he
  | cons c cs ih =>
      rcases List.mem_cons.mp he with rfl | he
      · exact ⟨c, by simp [verdict, h]⟩
      · have hnext : (o.perform c).channel.hasFault = true := by
          rw [perform_of_fault h]
          exact h
        rw [← home_perform o c]
        exact ih hnext he

/-- A fault waits after a command was refused. -/
theorem hasFault_of_refused {cs : List Command} {b : LoopId} {c : Command}
    (h : .performed b loop c .refused ∈ o.performances loop cs) :
    (cs.foldl perform o).channel.hasFault = true := by
  induction cs generalizing o with
  | nil => cases h
  | cons c' cs ih =>
      cases hfault : o.channel.hasFault with
      | true => exact hasFault_foldl_perform hfault (c' :: cs)
      | false =>
          rcases List.mem_cons.mp h with heq | h
          · simp [verdict, hfault] at heq
          · exact ih h

/-- Whoever watches a command that is refused is told. -/
theorem hasFailed_of_refused (hm : o.hub.IsMute) {cs : List Command} {b : LoopId} {c : Command}
    (h : .performed b loop c .refused ∈ o.performances loop cs) :
    c.HasFailed (cs.foldl perform o).hub := by
  induction cs generalizing o with
  | nil => cases h
  | cons c' cs ih =>
      have hquiet := (mild_quiet o.home hm).perform c' (o := o) ⟨rfl, .refl o.hub⟩
      have hm' : (o.perform c').hub.IsMute := hquiet.2.isMute hm
      rcases List.mem_cons.mp h with heq | h
      · cases hfault : o.channel.hasFault with
        | false => simp [verdict, hfault] at heq
        | true =>
            obtain ⟨-, -, rfl, -⟩ := Traffic.performed.inj heq
            have hfailed : c.HasFailed (o.perform c).hub := by
              rw [perform_of_fault hfault]
              exact Hub.hasFailed_abandon o.hub c
            have hjournal := (quiet_foldl_perform hm' cs).2.journal
            exact fun w hw => hjournal.subset (hfailed w hw)
      · exact ih hm' h

end Outlet

end FrameBridge
