/-!
# Runs

Code of the application may panic in the middle of a callback, and a bridge gives
up on work that does not come to an end.  A run is the state that was reached,
together with the reason if the end was not.
-/

namespace FrameBridge

/-- Why a run ended early. -/
inductive Stop where
  /-- Application code panicked. -/
  | panicked (message : String)
  /-- The rounds allowed for settling were used up. -/
  | unsettled
deriving DecidableEq, Repr, Inhabited

/-- The state that was reached, and why the run went no further. -/
structure Run (α : Type) where
  state : α
  stop : Option Stop := none
deriving Repr

namespace Run

/-- A run that reached its end. -/
def done {α : Type} (a : α) : Run α := ⟨a, none⟩

/-- A run that ended early. -/
def stopped {α : Type} (why : Stop) (a : α) : Run α := ⟨a, some why⟩

/-- Goes on from the state of a run that reached its end. -/
def andThen {α : Type} (r : Run α) (f : α → Run α) : Run α :=
  match r.stop with
  | none => f r.state
  | some _ => r

/-- Changes the state of a run, however it ended. -/
def map {α β : Type} (f : α → β) (r : Run α) : Run β := ⟨f r.state, r.stop⟩

/-- Takes one step for each element of a list. -/
def each {α β : Type} (f : α → β → Run α) : List β → α → Run α
  | [], a => done a
  | b :: bs, a => (f a b).andThen (each f bs)

@[simp] theorem andThen_done {α : Type} (a : α) (f : α → Run α) : (done a).andThen f = f a := rfl

@[simp] theorem andThen_stopped {α : Type} (why : Stop) (a : α) (f : α → Run α) :
    (stopped why a).andThen f = stopped why a := rfl

@[simp] theorem state_done {α : Type} (a : α) : (done a).state = a := rfl

@[simp] theorem stop_done {α : Type} (a : α) : (done a).stop = none := rfl

@[simp] theorem state_map {α β : Type} (f : α → β) (r : Run α) :
    (r.map f).state = f r.state := rfl

@[simp] theorem stop_map {α β : Type} (f : α → β) (r : Run α) : (r.map f).stop = r.stop := rfl

theorem andThen_assoc {α : Type} (r : Run α) (f g : α → Run α) :
    (r.andThen f).andThen g = r.andThen fun a => (f a).andThen g := by
  cases r with
  | mk a stop => cases stop <;> rfl

/-- What comes after a run that reached its end starts from there. -/
theorem state_andThen {α : Type} {r : Run α} {f : α → Run α} (h : r.stop = none) :
    (r.andThen f).state = (f r.state).state := by
  cases r with
  | mk a stop =>
      cases h
      rfl

/-- Two runs one after the other reach the end when both do. -/
theorem stop_andThen {α : Type} {r : Run α} {f : α → Run α} :
    (r.andThen f).stop = none ↔ r.stop = none ∧ (f r.state).stop = none := by
  cases r with
  | mk a stop => cases stop <;> simp [andThen]

/-- What holds of the state of a run, and after what comes next, holds in the end. -/
theorem holds_andThen_state {α : Type} {P : α → Prop} {r : Run α} {f : α → Run α}
    (hr : P r.state) (hf : P (f r.state).state) : P (r.andThen f).state := by
  cases r with
  | mk a stop =>
      cases stop with
      | none => exact hf
      | some why => exact hr

/-- What holds of the state of a run, and is kept by what comes after it, holds in the end. -/
theorem holds_andThen {α : Type} {P : α → Prop} {r : Run α} {f : α → Run α} (hr : P r.state)
    (hf : ∀ a, P a → P (f a).state) : P (r.andThen f).state :=
  holds_andThen_state hr (hf r.state hr)

/-- What the step for each element of a list keeps holds after these steps. -/
theorem holds_each_of_mem {α β : Type} {P : α → Prop} {f : α → β → Run α} {bs : List β}
    (hf : ∀ b ∈ bs, ∀ a, P a → P (f a b).state) {a : α} (ha : P a) : P (each f bs a).state := by
  induction bs generalizing a with
  | nil => exact ha
  | cons b bs ih =>
      have hrest : ∀ b' ∈ bs, ∀ a, P a → P (f a b').state :=
        fun b' hb' => hf b' (List.mem_cons_of_mem b hb')
      exact holds_andThen (hf b List.mem_cons_self a ha) fun a ha => ih hrest ha

/-- What every step keeps holds after the steps for a list. -/
theorem holds_each {α β : Type} {P : α → Prop} {f : α → β → Run α}
    (hf : ∀ a b, P a → P (f a b).state) (bs : List β) {a : α} (ha : P a) :
    P (each f bs a).state :=
  holds_each_of_mem (fun b _ a => hf a b) ha

/-- Steps that never stop for a reason do not stop for it together. -/
theorem stop_each_ne {α β : Type} {f : α → β → Run α} {why : Stop}
    (hf : ∀ a b, (f a b).stop ≠ some why) (bs : List β) (a : α) :
    (each f bs a).stop ≠ some why := by
  induction bs generalizing a with
  | nil =>
      intro hstop
      cases hstop
  | cons b bs ih =>
      have hb := hf a b
      rw [each]
      cases hr : f a b with
      | mk a' stop =>
          rw [hr] at hb
          cases stop with
          | none => exact ih a'
          | some why' => exact hb

theorem each_append {α β : Type} (f : α → β → Run α) (xs ys : List β) (a : α) :
    each f (xs ++ ys) a = (each f xs a).andThen (each f ys) := by
  induction xs generalizing a with
  | nil => rfl
  | cons x xs ih =>
      simp only [List.cons_append, each, andThen_assoc]
      congr 1
      funext b
      exact ih b

/-- A run that reached its end did so in a state with `P`, and a run that was given up for want
of rounds was in a state with `U`.  Nothing is said of a run in which the application panicked. -/
def Yields {α : Type} (P U : α → Prop) (r : Run α) : Prop :=
  (r.stop = none → P r.state) ∧ (r.stop = some .unsettled → U r.state)

namespace Yields

variable {α : Type} {P P' U U' : α → Prop}

theorem done {a : α} (h : P a) : Yields P U (Run.done a) := by
  refine ⟨fun _ => h, ?_⟩
  intro hstop
  cases hstop

theorem unsettled {a : α} (h : U a) : Yields P U (Run.stopped .unsettled a) := by
  refine ⟨?_, fun _ => h⟩
  intro hstop
  cases hstop

/-- Whatever a run is known to yield it yields in any weaker form. -/
theorem mono {r : Run α} (h : Yields P U r) (hP : ∀ a, P a → P' a) (hU : ∀ a, U a → U' a) :
    Yields P' U' r :=
  ⟨fun hstop => hP _ (h.1 hstop), fun hstop => hU _ (h.2 hstop)⟩

/-- A run yields what the state shows that it reached, if it is never given up. -/
theorem of_state {r : Run α} (h : P r.state) (hstop : r.stop ≠ some .unsettled) :
    Yields P U r :=
  ⟨fun _ => h, fun hunsettled => absurd hunsettled hstop⟩

/-- A run and what comes after it yield what the latter yields. -/
theorem andThen {r : Run α} {f : α → Run α} (hr : Yields P U r)
    (hf : ∀ a, P a → Yields P' U (f a)) : Yields P' U (r.andThen f) := by
  cases r with
  | mk a stop =>
      cases stop with
      | none => exact hf a (hr.1 rfl)
      | some why =>
          refine ⟨?_, hr.2⟩
          intro hstop
          cases hstop

theorem map {β : Type} {Q V : β → Prop} {f : α → β} {r : Run α} (h : Yields P U r)
    (hP : ∀ a, P a → Q (f a)) (hU : ∀ a, U a → V (f a)) : Yields Q V (r.map f) :=
  ⟨fun hstop => hP _ (h.1 hstop), fun hstop => hU _ (h.2 hstop)⟩

/-- What every step yields from itself the steps for a list yield from it. -/
theorem each {β : Type} {f : α → β → Run α} (hf : ∀ a b, P a → Yields P U (f a b))
    (bs : List β) {a : α} (ha : P a) : Yields P U (Run.each f bs a) := by
  induction bs generalizing a with
  | nil => exact done ha
  | cons b bs ih => exact (hf a b ha).andThen fun a ha => ih ha

end Yields

end Run

end FrameBridge
