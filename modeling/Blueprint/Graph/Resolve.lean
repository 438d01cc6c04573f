import Blueprint.Entity.Attribute
import Blueprint.Graph.Basic

/-!
# Resolving references

A named reference means the entity of that key at the least depth, which has to be the only one
there; a bound reference means its own entity. `resolveGraph` walks breadth first from the root
along slots and task targets; what it does not reach is never resolved.
-/

namespace Blueprint

def Ref.resolve (r : Ref) (g : EntityGraph) (source : String) : Except CompileError EntityId :=
  let unresolved : CompileError := .unresolved source r.kind.name r.key.name
  match r with
  | .bound id key =>
    if (g.entity? id).any fun e => e.key == key then .ok id else .error unresolved
  | .named key =>
    let candidates := g.candidates key
    match g.leastDepth? candidates with
    | none => .error unresolved
    | some depth =>
      match g.atDepth depth candidates with
      | [id] => .ok id
      | ids => .error (.ambiguous source key.kind.name key.name ids.length depth)

/-- A task of an action with the entity it runs on. -/
structure TaskTarget where
  action : String
  task : String
  target : EntityId
  deriving DecidableEq, Repr, Inhabited

/-- What the references of one entity resolve to. -/
structure Binding where
  slots : OrderedMap (List EntityId) := ∅
  targets : List TaskTarget := []
  deriving Inhabited

namespace Binding

def slot (b : Binding) (name : String) : List EntityId := (b.slots.get? name).getD []

def target? (b : Binding) (action task : String) : Option EntityId :=
  (b.targets.find? fun t => t.action == action && t.task == task).map (·.target)

/-- The entities next to this one, in the order in which they are met. -/
def neighbours (b : Binding) : List EntityId :=
  b.slots.values.flatten ++ b.targets.map (·.target)

end Binding

namespace Entity

def bindSlots (e : Entity) (g : EntityGraph) : Except CompileError (OrderedMap (List EntityId)) :=
  e.references.entries.foldlM (fun slots (slot, refs) => do
    return slots.insert slot (← refs.mapM (·.resolve g e.key.text))) ∅

def checkRequired (e : Entity) (slots : OrderedMap (List EntityId)) : Except CompileError Unit :=
  match e.kind.schema.slots.find? fun s => s.required && ((slots.get? s.name).getD []).isEmpty with
  | some s => .error (.unresolved e.key.text s.target.name ("<" ++ s.name ++ ">"))
  | none => .ok ()

def defaultTarget (e : Entity) (id : EntityId) (slots : OrderedMap (List EntityId))
    (task : String) : Except TaskFault EntityId :=
  match e.kind.schema.defaultTarget with
  | .self => .ok id
  | .slot slot =>
    match ((slots.get? slot).getD []).head? with
    | some t => .ok t
    | none => .error (.noDefaultTarget task slot)
  | .none => .error (.needsTarget task)

def bindTask (e : Entity) (g : EntityGraph) (id : EntityId) (slots : OrderedMap (List EntityId))
    (scope : String) (n : TaskNode) : Except CompileError (Option EntityId) :=
  match n.target with
  | some r => (r.resolve g e.key.text).map some
  | none =>
    if n.needsTarget then
      ((e.defaultTarget id slots n.name).map some).mapError (.structural scope)
    else .ok none

/-- A target has to be of the kind that the task demands. -/
def checkTarget (g : EntityGraph) (scope : String) (n : TaskNode) (target : EntityId) :
    Except CompileError Unit := do
  let kind := (← g.entity target).kind
  match n.targetKind? with
  | some expected =>
    if kind = expected then .ok ()
    else .error (.structural scope (.wrongTarget n.name expected kind))
  | none => .ok ()

def bindAction (e : Entity) (g : EntityGraph) (id : EntityId) (slots : OrderedMap (List EntityId))
    (name : String) (a : Action) : Except CompileError (List TaskTarget) := do
  let scope := e.actionScope name
  let targets ← a.tree.allNodes.mapM fun n => do
    match ← e.bindTask g id slots scope n with
    | some target =>
      checkTarget g scope n target
      return some ⟨name, n.name, target⟩
    | none => return none
  return targets.filterMap fun t => t

def bindReferences (e : Entity) (g : EntityGraph) (id : EntityId) :
    Except CompileError Binding := do
  let slots ← e.bindSlots g
  e.checkRequired slots
  let targets ← e.actions.entries.mapM fun (name, a) => e.bindAction g id slots name a
  return ⟨slots, targets.flatten⟩

end Entity

/-- A graph with the bindings of all that its root reaches. -/
structure ResolvedGraph where
  graph : EntityGraph
  root : EntityId
  /-- Breadth first, the root first. -/
  reachable : List EntityId
  bindings : List (EntityId × Binding) := []
  deriving Inhabited

namespace ResolvedGraph

def binding? (r : ResolvedGraph) (id : EntityId) : Option Binding :=
  (r.bindings.find? fun b => b.1 == id).map (·.2)

def isResolved (r : ResolvedGraph) (id : EntityId) : Bool := (r.binding? id).isSome

def slot (r : ResolvedGraph) (id : EntityId) (name : String) : List EntityId :=
  match r.binding? id with
  | some b => b.slot name
  | none => []

def target? (r : ResolvedGraph) (id : EntityId) (action task : String) : Option EntityId :=
  (r.binding? id).bind fun b => b.target? action task

def entity (r : ResolvedGraph) (id : EntityId) : Except CompileError Entity := r.graph.entity id

def reachableOfKind (r : ResolvedGraph) (k : EntityKind) : List EntityId :=
  r.reachable.filter fun id => (r.graph.entity? id).any fun e => e.kind == k

def meet (r : ResolvedGraph) (ids : List EntityId) : ResolvedGraph :=
  { r with reachable :=
      ids.foldl (fun seen id => if seen.contains id then seen else seen ++ [id]) r.reachable }

/-- Binds the entity that was reached as number `i`, if there is one, and meets its neighbours. -/
def visit (r : ResolvedGraph) (i : Nat) : Except CompileError ResolvedGraph :=
  match r.reachable[i]? with
  | none => .ok r
  | some id => do
    let b ← (← r.entity id).bindReferences r.graph id
    return { r with bindings := r.bindings ++ [(id, b)] }.meet b.neighbours

end ResolvedGraph

/-- Visits the reached entities in order; no more can be reached than are declared. -/
def resolveGraph (g : EntityGraph) : Except CompileError ResolvedGraph :=
  match g.root with
  | none => .error (.validation "document" .noRoot)
  | some root => g.ids.foldlM ResolvedGraph.visit { graph := g, root, reachable := [root] }

end Blueprint
