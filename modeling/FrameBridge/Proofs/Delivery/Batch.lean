import FrameBridge.Loop.Delivery
import FrameBridge.Loop.Tap
import Mathlib.Data.List.Perm.Basic

/-!
# Batches on their way

A step of a delivery hands octets over to the transport or keeps them, and it keeps the promises
of all its frames until it ends.
-/

namespace FrameBridge

/-- The octets of frames, one after the other. -/
def octets (frames : List Outbound) : Bytes := frames.flatMap (·.bytes)

@[simp] theorem octets_nil : octets [] = [] := rfl

@[simp] theorem octets_cons (f : Outbound) (frames : List Outbound) :
    octets (f :: frames) = f.bytes ++ octets frames :=
  List.flatMap_cons

@[simp] theorem octets_append (frames more : List Outbound) :
    octets (frames ++ more) = octets frames ++ octets more :=
  List.flatMap_append

theorem octets_mono {frames more : List Outbound} (h : frames <+: more) :
    octets frames <+: octets more := by
  obtain ⟨rest, rfl⟩ := h
  rw [octets_append]
  exact List.prefix_append _ _

namespace Delivery

/-- The promises of the frames of a delivery. -/
def promises (d : Delivery) : List Promise := d.written ++ d.waiting.map (·.promise)

variable {τ : Type}

/-- A step of a delivery over a transport with a tap lost nothing, if it comes to this. -/
inductive Conserves (d : Delivery) (t : Tap τ) : DeliveryStep (Tap τ) → Prop
  | pending : Conserves d t .pending
  | going {d' : Delivery} {t' : Tap τ} (hpromises : d'.promises = d.promises)
      (htaken : t'.taken ++ octets d'.waiting = t.taken ++ octets d.waiting) :
      Conserves d t (.going d' t')
  | done {rs : List Resolution} {t' : Tap τ} (hwaiting : d.waiting = [])
      (hpromises : rs.map (·.promise) = d.promises) (htaken : t'.taken = t.taken) :
      Conserves d t (.ended none rs t')
  | failed {e : BridgeError} {rs : List Resolution} {t' : Tap τ}
      (hpromises : (rs.map (·.promise)).Perm d.promises) (htaken : t'.taken = t.taken)
      (hfailed : t'.hasFailed = true) : Conserves d t (.ended (some e) rs t')

theorem promises_failWith (written now : List Promise) (rest : List Outbound) (e : BridgeError) :
    (failWith written now rest e).map (·.promise) = now ++ written ++ rest.map (·.promise) := by
  simp [failWith, Function.comp_def]

variable [Transport τ]

theorem conserves_step (d : Delivery) (t : Tap τ) : d.Conserves t (d.step t) := by
  obtain ⟨written, waiting⟩ := d
  cases waiting with
  | nil =>
      simp only [step, Transport.flush, Tap.flush]
      cases Transport.flush t.inner with
      | mk answer inner =>
          cases answer with
          | ok u =>
              refine .done rfl ?_ rfl
              simp [promises, Function.comp_def]
          | error m =>
              refine .failed ?_ rfl rfl
              rw [promises_failWith]
              exact .rfl
  | cons o rest =>
      simp only [step]
      split
      · rename_i hempty
        have hbytes : o.bytes = [] := List.isEmpty_iff.mp hempty
        refine .going ?_ ?_
        · simp [promises]
        · simp [hbytes]
      · simp only [Transport.write, Tap.write]
        -- The promise of the frame that fails is told of before those of the frames in front.
        have hperm : ([o.promise] ++ written ++ rest.map (·.promise)).Perm
            (written ++ (o :: rest).map (·.promise)) :=
          List.perm_middle.symm
        cases Transport.write t.inner o.bytes with
        | mk answer inner =>
            cases answer with
            | pending => exact .pending
            | failed m =>
                refine .failed ?_ rfl rfl
                rw [promises_failWith]
                exact hperm
            | ready n =>
                cases n with
                | zero =>
                    refine .failed ?_ ?_ ?_
                    · rw [promises_failWith]
                      exact hperm
                    · simp
                    · simp
                | succ n =>
                    refine .going rfl ?_
                    simp only [octets_cons, List.append_assoc]
                    rw [← List.append_assoc (o.bytes.take (n + 1)), List.take_append_drop]

end Delivery

end FrameBridge
