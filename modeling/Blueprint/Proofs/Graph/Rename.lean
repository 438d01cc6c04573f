import Blueprint.Entity.Validate
import Blueprint.Proofs.Data.Maps

/-!
# Renaming places

An entity whose bound references are moved to other places is the same entity in everything else:
in its fields, its tasks, and in whether it is valid.
-/

namespace Blueprint

variable {π : EntityId → EntityId}

/-! ### References and tasks -/

def Ref.rename (π : EntityId → EntityId) : Ref → Ref
  | .named key => .named key
  | .bound id key => .bound (π id) key

@[simp] theorem Ref.key_rename (r : Ref) : (r.rename π).key = r.key := by cases r <;> rfl

@[simp] theorem Ref.kind_rename (r : Ref) : (r.rename π).kind = r.kind := by cases r <;> rfl

def TaskHead.rename (π : EntityId → EntityId) (h : TaskHead) : TaskHead :=
  { h with target := h.target.map (·.rename π) }

namespace TaskNode

mutual

def rename (π : EntityId → EntityId) : TaskNode → TaskNode
  | leaf h w => leaf (h.rename π) w
  | decision h s success failure =>
    decision (h.rename π) s (renameAll π success) (renameAll π failure)
  | loop h iterations loopVariable body =>
    loop (h.rename π) iterations loopVariable (renameAll π body)

def renameAll (π : EntityId → EntityId) : List TaskNode → List TaskNode
  | [] => []
  | n :: ns => rename π n :: renameAll π ns

end

variable (n : TaskNode)

@[simp] theorem head_rename : (n.rename π).head = n.head.rename π := by
  cases n <;> rw [rename] <;> rfl

@[simp] theorem name_rename : (n.rename π).name = n.name := by rw [name, head_rename]; rfl

@[simp] theorem target_rename : (n.rename π).target = n.target.map (·.rename π) := by
  rw [target, head_rename]; rfl

@[simp] theorem predecessors_rename : (n.rename π).predecessors = n.predecessors := by
  rw [predecessors, head_rename]; rfl

@[simp] theorem wire_rename : (n.rename π).wire = n.wire := by cases n <;> rw [rename] <;> rfl

@[simp] theorem needsTarget_rename : (n.rename π).needsTarget = n.needsTarget := by
  cases n <;> rw [rename] <;> rfl

@[simp] theorem targetKind?_rename : (n.rename π).targetKind? = n.targetKind? := by
  cases n <;> rw [rename] <;> rfl

@[simp] theorem texts_rename : (n.rename π).texts = n.texts := by
  cases n <;> rw [rename] <;> rfl

@[simp] theorem outputs_rename : (n.rename π).outputs = n.outputs := by
  cases n <;> rw [rename] <;> rfl

mutual

theorem all_rename : ∀ n : TaskNode, (n.rename π).all = n.all.map (rename π)
  | leaf h w => by simp [rename, all]
  | decision h s success failure => by
    simp [rename, all, allOf_renameAll success, allOf_renameAll failure]
  | loop h iterations loopVariable body => by simp [rename, all, allOf_renameAll body]

theorem allOf_renameAll : ∀ ns : List TaskNode, allOf (renameAll π ns) = (allOf ns).map (rename π)
  | [] => rfl
  | n :: ns => by simp [renameAll, allOf, all_rename n, allOf_renameAll ns]

end

end TaskNode

@[simp] theorem TaskTree.allNodes_renameAll (t : TaskTree) :
    TaskTree.allNodes (TaskNode.renameAll π t) = t.allNodes.map (·.rename π) :=
  TaskNode.allOf_renameAll t

/-! ### Entities -/

def Action.rename (π : EntityId → EntityId) (a : Action) : Action :=
  { a with tree := TaskNode.renameAll π a.tree }

namespace Entity

def rename (π : EntityId → EntityId) (e : Entity) : Entity :=
  { e with
    actions := e.actions.mapValues (·.rename π)
    references := e.references.mapValues (·.map (·.rename π)) }

variable (e : Entity)

@[simp] theorem key_rename : (e.rename π).key = e.key := rfl

@[simp] theorem kind_rename : (e.rename π).kind = e.kind := rfl

/-! ### Validity -/

theorem checkSlot_rename (s : KindSchema) (slot : String) (refs : List Ref) :
    checkSlot s slot (refs.map (·.rename π)) = checkSlot s slot refs := by
  unfold checkSlot
  cases s.slot? slot with
  | none => rfl
  | some spec =>
    dsimp only
    rw [List.length_map]
    have each : (refs.map (·.rename π)).forM (fun r =>
          if r.kind = spec.target then .ok () else .error (.slotTarget slot spec.target r.key)) =
        refs.forM fun r => (if r.kind = spec.target then .ok ()
          else .error (.slotTarget slot spec.target r.key) : Except ValidationFault Unit) :=
      forM_map_eq fun r _ => by simp
    rw [each]

theorem checkTask_rename (s : KindSchema) (n : TaskNode) :
    checkTask s (n.rename π) = checkTask s n := by
  unfold checkTask
  rw [TaskNode.target_rename, TaskNode.needsTarget_rename, TaskNode.targetKind?_rename,
    TaskNode.name_rename]
  cases n.target with
  | none => rfl
  | some r => simp

theorem checkContent_rename : (e.rename π).checkContent = e.checkContent := by
  have slots : (e.rename π).references.entries.forM
        (fun entry => checkSlot e.kind.schema entry.1 entry.2) =
      e.references.entries.forM fun entry => checkSlot e.kind.schema entry.1 entry.2 :=
    forM_map_eq fun entry _ => checkSlot_rename e.kind.schema entry.1 entry.2
  have actions : ∀ name, (e.rename π).actions.contains name = e.actions.contains name :=
    e.actions.contains_mapValues _
  unfold checkContent
  simp only [kind_rename, actions]
  exact congrArg (· >>= _) slots

theorem checkAction_rename (name : String) (a : Action) :
    (e.rename π).checkAction name (a.rename π) = e.checkAction name a := by
  have tasks : ∀ place : TaskFault → CompileError, (a.rename π).tree.allNodes.forM
        (fun n => inScope place (checkTask e.kind.schema n)) =
      a.tree.allNodes.forM fun n => inScope place (checkTask e.kind.schema n) := by
    intro place
    rw [Action.rename, TaskTree.allNodes_renameAll]
    exact forM_map_eq fun n _ => by rw [checkTask_rename]
  unfold checkAction
  simp only [kind_rename, tasks]
  rfl

theorem validate_rename : (e.rename π).validate = e.validate := by
  have actions : (e.rename π).actions.entries.forM
        (fun entry => (e.rename π).checkAction entry.1 entry.2) =
      e.actions.entries.forM fun entry => e.checkAction entry.1 entry.2 :=
    forM_map_eq fun entry _ => e.checkAction_rename entry.1 entry.2
  unfold validate
  rw [checkContent_rename]
  exact congrArg (ite _ _) (bind_congr fun _ => congrArg (· >>= _) actions)

end Entity

end Blueprint
