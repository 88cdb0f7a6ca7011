import FrameBridge.Proofs.Issue.Transcript

/-!
# What application code issues

Application code has two ways to write to its bridge: through the writer that a callback is
given, and through the handle of the bridge.  Both ask for the same things.  The log of what was
issued depends on the identifiers that are left and on nothing else of the bridge.
-/

namespace FrameBridge

/-- The write of a writer that does what a write through a handle asks for.  A question has
none. -/
def HandleAction.direct : HandleAction → Option WriterAction
  | .headers s hs ends => some (.headers s hs ends)
  | .data s d ends => some (.data s d ends)
  | .frame s t f d => some (.frame s t f d)
  | .reset s c => some (.reset s c)
  | .goAway c last d => some (.goAway c last d)
  | .ping n label => some (.ping n (some (.future, label)))
  | .settings s label => some (.settings s (some (.future, label)))
  | .push s hs _ _ => some (.push s hs)
  | .isClosed => none

/-- The action with a write through a handle replaced by the write of a writer. -/
def Action.direct : Action → Action
  | .handle target offLoop a => (a.direct.map Action.write).getD (.handle target offLoop a)
  | a => a

/-- The action is made on the loop of the bridge, through its own handle if through any.  It
does not ask for the transport to be closed. -/
def Action.IsOwn (home : LoopId) : Action → Prop
  | .write a => a ≠ .close
  | .handle target offLoop _ => target.getD home = home ∧ offLoop = false
  | .panic _ => False

theorem Action.isOwn_direct {home : LoopId} {a : Action} (h : a.IsOwn home) :
    a.direct.IsOwn home := by
  cases a with
  | write w => exact h
  | handle target offLoop a => cases a <;> first | exact h | exact nofun
  | panic m => cases h

/-- What application code has issued: the identifiers that are left, and what it asked of the
codec, in order. -/
structure IssueLog where
  streams : LocalStreams
  issued : List Issue := []

namespace IssueLog

def add (l : IssueLog) (i : Issue) : IssueLog := { l with issued := l.issued ++ [i] }

/-- A push promise takes the next identifier; nothing is asked of the codec if none is left. -/
def push (l : IssueLog) (c : StreamId → Command) : IssueLog :=
  match l.streams.reserve with
  | (.ok id, streams) => { l with streams }.add (.write (c id))
  | (.error _, streams) => { l with streams }

/-- What an action of a writer issues. -/
def writer (now : StreamId) (l : IssueLog) : WriterAction → IssueLog
  | .headers s hs ends => l.add (.write (.headers (s.resolve now) hs ends))
  | .data s d ends => l.add (.write (.data (s.resolve now) d ends))
  | .ping n _ => l.add (.write (.ping n .void))
  | .consume s n => l.add (.giveBack (s.resolve now) n)
  | .frame s t f d => l.add (.write (.frame (s.resolve now) t f d))
  | .reset s c => l.add (.write (.reset (s.resolve now) c))
  | .goAway c last d => l.add (.write (.goAway c last d))
  | .settings s _ => l.add (.write (.settings s .void))
  | .pushId s id hs _ => l.add (.write (.pushPromise (s.resolve now) id hs .void))
  | .push s hs => l.push fun id => .pushPromise (s.resolve now) id hs .void
  | .isWritable _ | .isActive | .close => l

/-- What an action of application code issues. -/
def action (now : StreamId) (l : IssueLog) : Action → IssueLog
  | .write a => l.writer now a
  | .handle _ _ a => (a.direct.map (l.writer now)).getD l
  | .panic _ => l

/-- What application code issues, one action after the other. -/
def program (now : StreamId) (l : IssueLog) (actions : List Action) : IssueLog :=
  actions.foldl (action now) l

/-- The label of the callback of a push promise for which no identifier is left. -/
def refusal (l : IssueLog) : Action → List String
  | .handle _ _ (.push _ _ .callback label) => if l.streams.hasNext then [] else [label]
  | _ => []

/-- The labels of the callbacks that are called in the course of some application code, because
no identifier is left. -/
def refusals (now : StreamId) : IssueLog → List Action → List String
  | _, [] => []
  | l, a :: as => l.refusal a ++ refusals now (l.action now a) as

theorem issued_push (l : IssueLog) (c : StreamId → Command) :
    ∃ more, (l.push c).issued = l.issued ++ more := by
  unfold push
  split
  · exact ⟨_, rfl⟩
  · exact ⟨[], (List.append_nil _).symm⟩

theorem issued_writer (now : StreamId) (l : IssueLog) (a : WriterAction) :
    ∃ more, (l.writer now a).issued = l.issued ++ more := by
  cases a with
  | push s hs => exact l.issued_push _
  | isWritable | isActive | close => exact ⟨[], (List.append_nil _).symm⟩
  | headers | data | ping | consume | frame | reset | goAway | settings | pushId => exact ⟨_, rfl⟩

theorem issued_action (now : StreamId) (l : IssueLog) (a : Action) :
    ∃ more, (l.action now a).issued = l.issued ++ more := by
  cases a with
  | write a => exact l.issued_writer now a
  | handle target offLoop a =>
      cases hdirect : a.direct with
      | none => exact ⟨[], by simp [action, hdirect]⟩
      | some w =>
          obtain ⟨more, hmore⟩ := l.issued_writer now w
          exact ⟨more, by simp [action, hdirect, hmore]⟩
  | panic m => exact ⟨[], (List.append_nil _).symm⟩

theorem action_direct (now : StreamId) (l : IssueLog) (a : Action) :
    l.action now a.direct = l.action now a := by
  cases a with
  | write w => rfl
  | handle target offLoop a => cases a <;> rfl
  | panic m => rfl

theorem program_direct (now : StreamId) (l : IssueLog) (as : List Action) :
    l.program now (as.map Action.direct) = l.program now as := by
  unfold program
  rw [List.foldl_map]
  simp only [action_direct]

/-- No callback is called where nothing is written through handles. -/
theorem refusals_direct (now : StreamId) (l : IssueLog) (as : List Action) :
    l.refusals now (as.map Action.direct) = [] := by
  induction as generalizing l with
  | nil => rfl
  | cons a as ih =>
      have hnone : l.refusal a.direct = [] := by
        cases a with
        | write w => rfl
        | handle target offLoop a => cases a <;> rfl
        | panic m => rfl
      simp only [List.map_cons, refusals, hnone, List.nil_append]
      exact ih _

end IssueLog

end FrameBridge
