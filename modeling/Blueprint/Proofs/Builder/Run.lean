import Blueprint.Task.Builder

/-!
# Runs of a task builder

The calls of a builder as data. `run` makes one call after the other whatever becomes of them, and
`Accepted` is a run in which no call is refused. `Built` trees come from a run of either sort.
-/

namespace Blueprint

/-- A call of a task builder. `τ` is what a scope is closed with. -/
inductive Call (τ : Type) where
  | step (s : Step)
  | openSerial
  | openParallel
  | openDecision (d : DecisionHeader)
  | openBranch (b : Branch)
  | openLoop (l : LoopHeader)
  | close (token : τ)

def Call.shape {τ : Type} : Call τ → Call Unit
  | step s => step s
  | openSerial => openSerial
  | openParallel => openParallel
  | openDecision d => openDecision d
  | openBranch b => openBranch b
  | openLoop l => openLoop l
  | close _ => close ()

def Call.declares? {τ : Type} : Call τ → Option String
  | step s => some s.name
  | openDecision d => some d.name
  | openLoop l => some l.name
  | _ => none

@[simp] theorem Call.declares?_shape {τ : Type} (c : Call τ) : c.shape.declares? = c.declares? := by
  cases c <;> rfl

namespace TaskBuilder

/-- The outcome of a call, which gives a token if it opens a scope. -/
def perform (b : TaskBuilder) : Call ScopeToken → Outcome (Option ScopeToken)
  | .step s => opened (fun _ => none) (b.step s)
  | .openSerial => opened some b.openSerial
  | .openParallel => opened some b.openParallel
  | .openDecision d => opened some (b.openDecision d)
  | .openBranch side => opened some (b.openBranch side)
  | .openLoop l => opened some (b.openLoop l)
  | .close token => opened (fun _ => none) (b.close token)
where
  opened {α : Type} (token : α → Option ScopeToken) (o : Outcome α) : Outcome (Option ScopeToken) :=
    (o.1, o.2.map token)

/-- The builder after a list of calls, each of which may be refused. -/
def run (b : TaskBuilder) : List (Call ScopeToken) → TaskBuilder
  | [] => b
  | c :: cs => (b.perform c).1.run cs

def made (b : TaskBuilder) : List (Call ScopeToken) → List (Call ScopeToken)
  | [] => []
  | c :: cs =>
    match b.perform c with
    | (b', .ok _) => c :: b'.made cs
    | (b', .error _) => b'.made cs

/-- A run in which every call is accepted. -/
inductive Accepted : TaskBuilder → List (Call ScopeToken) → TaskBuilder → Prop where
  | done (b : TaskBuilder) : Accepted b [] b
  | call {b b' b'' : TaskBuilder} {c : Call ScopeToken} {cs : List (Call ScopeToken)}
      {token : Option ScopeToken} (first : b.perform c = (b', .ok token))
      (rest : Accepted b' cs b'') : Accepted b (c :: cs) b''

end TaskBuilder

/-- A tree that a builder finishes after a run that declared these tasks, one after the other. -/
def TaskTree.Built (t : TaskTree) (declared : List String) : Prop :=
  ∃ id action calls, ((TaskBuilder.new id action).run calls).finish = .ok t ∧
    ((TaskBuilder.new id action).made calls).filterMap Call.declares? = declared

end Blueprint
