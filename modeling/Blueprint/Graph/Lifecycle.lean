import Blueprint.Graph.Basic

/-!
# Lifecycles

The stage of every entity of a graph. An entity moves from each stage to the next one only.
-/

namespace Blueprint

structure Lifecycle where
  stages : List Stage
  deriving DecidableEq, Repr, Inhabited

namespace Lifecycle

def start (g : EntityGraph) : Lifecycle := ⟨List.replicate g.size .declared⟩

def stage? (l : Lifecycle) (id : EntityId) : Option Stage := l.stages[id]?

def advance (l : Lifecycle) (g : EntityGraph) (target : Stage) (id : EntityId) :
    Except CompileError Lifecycle :=
  match l.stage? id with
  | none => .error (.missingEntity id)
  | some source =>
    if source.next? = some target then .ok ⟨l.stages.set id target⟩
    else (g.entity id).bind fun e => .error (.lifecycle e.key source target)

/-- Moves one entity after the other, up to the first that cannot move. -/
def advanceAll (l : Lifecycle) (g : EntityGraph) (target : Stage) :
    List EntityId → Lifecycle × Except CompileError Unit
  | [] => (l, .ok ())
  | id :: ids =>
    match l.advance g target id with
    | .ok l => l.advanceAll g target ids
    | .error e => (l, .error e)

def advanced (l : Lifecycle) (g : EntityGraph) (target : Stage) (ids : List EntityId) :
    Except CompileError Lifecycle :=
  match l.advanceAll g target ids with
  | (l, .ok ()) => .ok l
  | (_, .error e) => .error e

end Lifecycle

end Blueprint
