import Blueprint.Payload.Runbook
import Blueprint.Proofs.Except

/-!
# Parts of a payload in closed form

A part that was rendered is determined by the root and the entities it refers to. These are the
values, with the nested levels of a runbook laid out flat.
-/

namespace Blueprint.Payload

variable {p : Payload} {root : Entity}

theorem entity_ok {id : EntityId} {e : Entity} :
    p.entity id = .ok e ↔ p.resolved.graph.entity? id = some e := by
  rw [entity, ResolvedGraph.entity, EntityGraph.entity]
  split <;> rename_i found <;> simp [found]

theorem identifier_eq (rooted : p.entity p.resolved.root = .ok root) (path : String) :
    p.identifier path = .ok (identifierAt root.name path) := by
  rw [identifier, rooted]
  rfl

theorem identifier_ok {path : String} {u : Uuid} (h : p.identifier path = .ok u) :
    ∃ root, p.entity p.resolved.root = .ok root ∧ u = identifierAt root.name path := by
  obtain ⟨root, rooted, h⟩ := bind_ok h
  exact ⟨root, rooted, pure_ok h⟩

def ownedAt (root e : Entity) (path : String) : Uuid :=
  identifierAt root.name (entityPath e ++ "/" ++ path)

theorem ownedId_eq (rooted : p.entity p.resolved.root = .ok root) (e : Entity) (path : String) :
    p.ownedId e path = .ok (ownedAt root e path) :=
  identifier_eq rooted _

def refTo (root e : Entity) : Json :=
  reference e.kind.refKind e.name (identifierAt root.name (entityPath e))

theorem localRef_ok {id : EntityId} {j : Json} (rooted : p.entity p.resolved.root = .ok root)
    (h : p.localRef id = .ok j) : ∃ e, p.entity id = .ok e ∧ j = refTo root e := by
  obtain ⟨e, found, h⟩ := bind_ok h
  rw [identifier_eq rooted] at h
  exact ⟨e, found, pure_ok h⟩

/-- The variables of an entity, or with a scope those of an action. -/
def shownVars (root e : Entity) (scope : String) (vs : List Variable) : Json :=
  .arr (vs.map fun v => v.payload (ownedAt root e (scope ++ "variable/" ++ v.name)))

theorem variableList_eq (rooted : p.entity p.resolved.root = .ok root) (e : Entity) (scope : String)
    (vs : List Variable) : p.variableList e scope vs = .ok (shownVars root e scope vs) := by
  have each : ∀ v ∈ vs, (do
      return v.payload (← p.ownedId e (scope ++ "variable/" ++ v.name)) : Rendered Json) =
      .ok (v.payload (ownedAt root e (scope ++ "variable/" ++ v.name))) := by
    intro v _
    rw [ownedId_eq rooted]
    rfl
  rw [variableList, mapM_eq_ok each]
  rfl

/-! ### Levels -/

def taskRefTo (ids : String → Uuid) (name : String) : Json := reference "app_task" name (ids name)

def childList (ids : String → Uuid) (t : TaskTree) : List Json :=
  t.map fun n => taskRefTo ids n.name

def edgeTo (ids : String → Uuid) (e : String × String) : Json :=
  .obj [("from_task_reference", taskRefTo ids e.1), ("to_task_reference", taskRefTo ids e.2)]

def edgeList (ids : String → Uuid) (t : TaskTree) : List Json := t.edges.map (edgeTo ids)

def levelRefs (ids : String → Uuid) (t : TaskTree) : LevelRefs := ⟨childList ids t, edgeList ids t⟩

def shownAttrs (ids : String → Uuid) : TaskNode → Json
  | .leaf _ w => RunbookScope.workAttrs w
  | .decision _ script success failure => .obj (RunbookScope.scriptFields script ++
      [("success_branch", (levelRefs ids success).branch),
        ("failure_branch", (levelRefs ids failure).branch)])
  | .loop _ iterations loopVariable body => .obj
      [("iterations", .str iterations), ("loop_variable", .str loopVariable),
        ("exit_condition_type", .str "dont_care"), ("edges", .arr (edgeList ids body))]

def shownChildren (ids : String → Uuid) : TaskNode → List Json
  | .leaf _ _ | .decision _ _ _ _ => []
  | .loop _ _ _ body => childList ids body

def targetField (root : Entity) (target : Option Entity) : List (String × Json) :=
  target.toList.map fun e => ("target_any_local_reference", refTo root e)

def shownTask (root : Entity) (ids : String → Uuid) (n : TaskNode) (target : Option Entity) : Json :=
  .obj <|
    [("name", .str n.name), ("description", .str n.head.description),
      ("uuid", .str (ids n.name).text), ("type", .str n.wire), ("attrs", shownAttrs ids n),
      ("variable_list", .arr []),
      ("child_tasks_local_reference_list", .arr (shownChildren ids n))] ++
    targetField root target ++
    [("retries", .ofNat n.head.retries), ("timeout_secs", .ofNat n.head.timeoutSecs)]

def shownMain (root : Entity) (ids : String → Uuid) (name : String) (id : Uuid) (t : TaskTree)
    (target : Option Entity) : Json :=
  .obj <|
    [("name", .str name), ("description", .str ""), ("uuid", .str id.text), ("type", .str "DAG"),
      ("attrs", .obj [("edges", .arr (edgeList ids t))]), ("variable_list", .arr []),
      ("child_tasks_local_reference_list", .arr (childList ids t)), ("retries", .int 0),
      ("timeout_secs", .int 0)] ++ targetField root target

/-! ### Runbooks -/

namespace RunbookScope

def ownedAt (s : RunbookScope) (root : Entity) (path : String) : Uuid :=
  Payload.ownedAt root s.entity (s.path ++ path)

def taskId (s : RunbookScope) (root : Entity) (name : String) : Uuid := s.ownedAt root ("task/" ++ name)

def targetEntity? (s : RunbookScope) (target : Option EntityId) : Option Entity :=
  target.bind s.payload.resolved.graph.entity?

def shown (s : RunbookScope) (root : Entity) (n : TaskNode) : Json :=
  shownTask root (s.taskId root) n
    (s.targetEntity? (s.payload.resolved.target? s.id s.action.name n.name))

variable {s : RunbookScope} (rooted : s.payload.entity s.payload.resolved.root = .ok root)

include rooted

theorem taskRef_eq (name : String) : s.taskRef name = .ok (taskRefTo (s.taskId root) name) := by
  rw [taskRef, ownedId, ownedId_eq rooted]
  rfl

theorem edge_eq (x y : String) : s.edge x y = .ok (edgeTo (s.taskId root) (x, y)) := by
  rw [edge, taskRef_eq rooted, taskRef_eq rooted]
  rfl

theorem targetFields_ok {target : Option EntityId} {fields : List (String × Json)}
    (h : s.targetFields target = .ok fields) :
    fields = targetField root (s.targetEntity? target) := by
  cases target with
  | none => exact pure_ok h
  | some t =>
    obtain ⟨j, rendered, h⟩ := bind_ok h
    obtain ⟨e, found, rfl⟩ := localRef_ok rooted rendered
    rw [pure_ok h, targetEntity?, Option.bind_some, entity_ok.mp found]
    rfl

/-- The place of a task ends up between what was there before and the tasks nested in it. -/
theorem fill_ok {n : TaskNode} {out nested r : List Json}
    (h : s.fill n out.length (shownAttrs (s.taskId root) n) (shownChildren (s.taskId root) n)
      (out ++ [.null] ++ nested) = .ok r) : r = out ++ s.shown root n :: nested := by
  unfold fill at h
  rw [ownedId, ownedId_eq rooted] at h
  obtain ⟨_, ⟨⟩, h⟩ := bind_ok h
  obtain ⟨target, rendered, h⟩ := bind_ok h
  rw [pure_ok h, targetFields_ok rooted rendered, List.append_assoc,
    List.set_append_right _ _ (Nat.le_refl _), Nat.sub_self]
  rfl

mutual

/-- A rendered level adds its tasks, nested ones included, depth first. -/
theorem level_ok : ∀ (t : List TaskNode) {out : List Json} {r : LevelRefs × List Json},
    s.level t out = .ok r →
    r = (levelRefs (s.taskId root) t, out ++ (TaskNode.allOf t).map (s.shown root))
  | [], out, r, h => by
    rw [level] at h
    rw [pure_ok h, TaskNode.allOf, List.map_nil, List.append_nil]
    rfl
  | n :: ns, out, r, h => by
    rw [level, taskRef_eq rooted, mapM_eq_ok fun x _ => edge_eq rooted x n.name] at h
    obtain ⟨first, rendered, h⟩ := bind_ok h
    obtain ⟨_, ⟨⟩, h⟩ := bind_ok h
    obtain ⟨_, ⟨⟩, h⟩ := bind_ok h
    obtain ⟨⟨refs, last⟩, others, h⟩ := bind_ok h
    have task := task_ok n rendered
    obtain ⟨rfl, rfl⟩ := Prod.ext_iff.mp (level_ok ns others)
    rw [pure_ok h, task, TaskNode.allOf, List.map_append, List.append_assoc]
    simp [levelRefs, childList, edgeList, TaskTree.edges, Function.comp_def]

theorem task_ok : ∀ (n : TaskNode) {out r : List Json}, s.task n out = .ok r →
    r = out ++ n.all.map (s.shown root)
  | .leaf head w, out, r, h => by
    rw [task, ← List.append_nil (out ++ [Json.null])] at h
    rw [fill_ok rooted h, TaskNode.all, List.map_singleton]
  | .decision head script success failure, out, r, h => by
    rw [task] at h
    obtain ⟨⟨succeeded, rest⟩, rendered, h⟩ := bind_ok h
    obtain ⟨⟨failed, nested⟩, rendered', h⟩ := bind_ok h
    obtain ⟨rfl, rfl⟩ := Prod.ext_iff.mp (level_ok success rendered)
    obtain ⟨rfl, rfl⟩ := Prod.ext_iff.mp (level_ok failure rendered')
    dsimp only at h
    rw [List.append_assoc (out ++ [Json.null]), ← List.map_append] at h
    rw [fill_ok rooted h, TaskNode.all, List.map_cons]
  | .loop head iterations loopVariable body, out, r, h => by
    rw [task] at h
    obtain ⟨⟨refs, nested⟩, rendered, h⟩ := bind_ok h
    obtain ⟨rfl, rfl⟩ := Prod.ext_iff.mp (level_ok body rendered)
    rw [fill_ok rooted h, TaskNode.all, List.map_cons]

end

theorem mainTask_ok {id : Uuid} {t : TaskTree} {j : Json}
    (h : s.mainTask id (levelRefs (s.taskId root) t) = .ok j) :
    j = shownMain root (s.taskId root) s.mainName id t (s.targetEntity? s.defaultTarget?) := by
  obtain ⟨target, rendered, h⟩ := bind_ok h
  rw [pure_ok h, targetFields_ok rooted rendered]
  rfl

end RunbookScope

/-- The runbook of an action: the main task, then every task depth first. -/
def shownRunbook (s : RunbookScope) (root : Entity) : Json :=
  .obj
    [("name", .str (s.entity.name ++ "_" ++ s.action.name ++ "_runbook")),
      ("description", .str s.action.description),
      ("uuid", .str (s.ownedAt root "runbook").text),
      ("main_task_local_reference", reference "app_task" s.mainName (s.ownedAt root "dag")),
      ("task_definition_list", .arr <|
        shownMain root (s.taskId root) s.mainName (s.ownedAt root "dag") s.action.tree
          (s.targetEntity? s.defaultTarget?) :: s.action.tree.allNodes.map (s.shown root)),
      ("variable_list", shownVars root s.entity s.path s.action.vars.values)]

theorem runbook_ok {id : EntityId} {a : Action} {j : Json} (h : p.runbook id a = .ok j) :
    ∃ e root, p.entity id = .ok e ∧ p.entity p.resolved.root = .ok root ∧
      RunbookScope.mainName ⟨p, id, e, a⟩ ∉ a.tree.allNodes.map TaskNode.name ∧
      j = shownRunbook ⟨p, id, e, a⟩ root := by
  obtain ⟨e, found, h⟩ := bind_ok h
  dsimp only at h
  split at h
  · cases h
  · rename_i free
    obtain ⟨mainId, named, h⟩ := bind_ok h
    obtain ⟨root, rooted, rfl⟩ := identifier_ok named
    obtain ⟨⟨refs, tasks⟩, rendered, h⟩ := bind_ok h
    obtain ⟨rfl, rfl⟩ := Prod.ext_iff.mp (RunbookScope.level_ok rooted _ rendered)
    obtain ⟨main, rendered, h⟩ := bind_ok h
    obtain rfl := RunbookScope.mainTask_ok rooted rendered
    rw [RunbookScope.ownedId, ownedId_eq rooted, variableList_eq rooted] at h
    refine ⟨e, root, found, rooted, by simpa using free, pure_ok h⟩

end Blueprint.Payload
