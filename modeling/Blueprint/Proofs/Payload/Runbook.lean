import Blueprint.Proofs.Builder.Order
import Blueprint.Proofs.Payload.Tasks

/-!
# Runbooks of built trees

`runbook_faithful`: the runbook of a built tree shows every task, level and edge of the tree once
and nothing else.
-/

namespace Blueprint.Payload

/-- The level whose child tasks and edges stand at these paths. -/
def levelAt (children edges : List String) (j : Json) : Option LevelRefs := do
  let cs ← (j.within? children).bind Json.asArray?
  let es ← (j.within? edges).bind Json.asArray?
  return ⟨cs, es⟩

/-- An object that holds the levels right under a task, each in its place. -/
def ShowsLevels (ids : String → Uuid) (j : Json) : TaskNode → Prop
  | .leaf _ _ => j.items "child_tasks_local_reference_list" = []
  | .decision _ _ success failure =>
    j.items "child_tasks_local_reference_list" = [] ∧
    levelAt ["attrs", "success_branch", "child_tasks_local_reference_list"]
      ["attrs", "success_branch", "edges"] j = some (levelRefs ids success) ∧
    levelAt ["attrs", "failure_branch", "child_tasks_local_reference_list"]
      ["attrs", "failure_branch", "edges"] j = some (levelRefs ids failure)
  | .loop _ _ _ body =>
    levelAt ["child_tasks_local_reference_list"] ["attrs", "edges"] j = some (levelRefs ids body)

structure ShowsTask (ids : String → Uuid) (n : TaskNode) (j : Json) : Prop where
  name : j.text? "name" = some n.name
  uuid : j.text? "uuid" = some (ids n.name).text
  type : j.text? "type" = some n.wire
  levels : ShowsLevels ids j n

structure ShowsMain (ids : String → Uuid) (name : String) (t : TaskTree) (j : Json) : Prop where
  name : j.text? "name" = some name
  type : j.text? "type" = some "DAG"
  level : levelAt ["child_tasks_local_reference_list"] ["attrs", "edges"] j = some (levelRefs ids t)

/-- A runbook that shows a tree whose tasks were declared in this order. -/
structure ShowsTree (ids : String → Uuid) (name : String) (t : TaskTree) (declared : List String)
    (j dag : Json) (tasks : List Json) : Prop where
  listed : j.get? "task_definition_list" = some (.arr (dag :: tasks))
  filled : ∀ d ∈ dag :: tasks, d ≠ .null
  first : ShowsMain ids name t dag
  others : List.Forall₂ (ShowsTask ids) t.allNodes tasks
  distinct : ((dag :: tasks).map (Json.text? "name")).Nodup
  children : (childrenIn j).Perm (t.allNodes.map fun n => taskRefTo ids n.name)
  levels : ∀ sub ∈ t.levels, (sub.map TaskNode.name).Sublist declared ∧
    ∀ x y, (x, y) ∈ sub.edges → x ∈ sub.map TaskNode.name ∧ y ∈ sub.map TaskNode.name
  references : ∀ o ∈ j.objects, o.text? "kind" = some "app_task" → ∃! d, d ∈ dag :: tasks ∧
    d.text? "name" = o.text? "name" ∧ d.text? "uuid" = o.text? "uuid"

/-! ### Single tasks -/

theorem showsTask_shownTask (root : Entity) (ids : String → Uuid) (n : TaskNode)
    (target : Option Entity) : ShowsTask ids n (shownTask root ids n target) where
  name := rfl
  uuid := rfl
  type := rfl
  levels := by
    cases n with
    | leaf head w => rfl
    | decision head script success failure => exact ⟨rfl, rfl, rfl⟩
    | loop head iterations loopVariable body => rfl

theorem showsMain_shownMain (root : Entity) (ids : String → Uuid) (name : String) (id : Uuid)
    (t : TaskTree) (target : Option Entity) :
    ShowsMain ids name t (shownMain root ids name id t target) :=
  ⟨rfl, rfl, rfl⟩

/-! ### Whole runbooks -/

variable {s : RunbookScope} {root : Entity} {declared : List String}

theorem covers_levels (built : s.action.tree.Built declared) {sub : TaskTree}
    (mem : sub ∈ s.action.tree.levels) : Covers (s.action.tree.allNodes.map TaskNode.name) sub := by
  have inside : ∀ x ∈ sub.map TaskNode.name, x ∈ s.action.tree.allNodes.map TaskNode.name := by
    intro x named
    obtain ⟨n, node, rfl⟩ := List.mem_map.mp named
    exact List.mem_map_of_mem
      ((TaskTree.levels_perm _).subset (List.mem_flatten.mpr ⟨sub, mem, node⟩))
  refine ⟨fun n node => inside _ (List.mem_map_of_mem node), fun e edge => ?_⟩
  have ends := (built_level built mem).2 e.1 e.2 edge
  exact ⟨inside _ ends.1, inside _ ends.2⟩

theorem mem_levels {t sub : TaskTree} {n : TaskNode} (node : n ∈ t.allNodes)
    (holds : sub ∈ n.levels) : sub ∈ t.levels :=
  List.mem_cons_of_mem _ (List.mem_flatMap.mpr ⟨n, node, holds⟩)

theorem references_shownRunbook (built : s.action.tree.Built declared) :
    ∀ o ∈ (shownRunbook s root).objects, o.text? "kind" = some "app_task" →
      o = reference "app_task" s.mainName (s.ownedAt root "dag") ∨
      ∃ x ∈ s.action.tree.allNodes.map TaskNode.name, o = taskRefTo (s.taskId root) x := by
  have main : Mentions (s.taskId root) (s.action.tree.allNodes.map TaskNode.name)
      (shownMain root (s.taskId root) s.mainName (s.ownedAt root "dag") s.action.tree
        (s.targetEntity? s.defaultTarget?)) :=
    mentions_shownMain root _ _ _ (covers_levels built List.mem_cons_self)
  have tasks : ∀ n ∈ s.action.tree.allNodes, Mentions (s.taskId root)
      (s.action.tree.allNodes.map TaskNode.name) (s.shown root n) :=
    fun n node => mentions_shownTask root _ fun t holds => covers_levels built (mem_levels node holds)
  have listed := mentions_arr (List.forall_mem_cons.mpr ⟨main, List.forall_mem_map.mpr tasks⟩)
  have vars := silent_vars root s.entity s.path s.action.vars.values
  refine Json.forall_objects_obj (by simp) ?_
  simp only [List.forall_mem_cons]
  refine ⟨by simp, by simp, by simp, fun _ => ?_, fun _ o mem kind => ?_, fun _ o mem kind => ?_,
    by simp⟩
  · exact Json.forall_objects_obj (fun _ => Or.inl rfl) (by simp)
  · exact Or.inr (listed o mem kind)
  · exact ((vars o mem).1 kind).elim

theorem tasks_shownRunbook : (shownRunbook s root).items "task_definition_list" =
    shownMain root (s.taskId root) s.mainName (s.ownedAt root "dag") s.action.tree
      (s.targetEntity? s.defaultTarget?) :: s.action.tree.allNodes.map (s.shown root) := rfl

theorem vars_shownRunbook : (shownRunbook s root).items "variable_list" =
    s.action.vars.values.map fun v =>
      v.payload (ownedAt root s.entity (s.path ++ "variable/" ++ v.name)) := rfl

theorem taskNames_shownRunbook :
    ((shownRunbook s root).items "task_definition_list").map (Json.text? "name") =
      (s.mainName :: s.action.tree.allNodes.map TaskNode.name).map some := by
  rw [tasks_shownRunbook, List.map_cons, List.map_cons, List.map_map, List.map_map]
  rfl

/-- The name of the main task is none of the others. -/
theorem taskNames_nodup (built : s.action.tree.Built declared)
    (free : s.mainName ∉ s.action.tree.allNodes.map TaskNode.name) :
    (((shownRunbook s root).items "task_definition_list").map (Json.text? "name")).Nodup := by
  rw [taskNames_shownRunbook]
  exact (List.nodup_cons.mpr ⟨free, built_names built⟩).map fun _ _ => Option.some.inj

theorem runbook_faithful {p : Payload} {id : EntityId} {a : Action} {j : Json}
    (built : a.tree.Built declared) (rendered : p.runbook id a = .ok j) :
    ∃ e ids dag tasks, p.entity id = .ok e ∧
      ShowsTree ids (e.name ++ "_" ++ a.name ++ "_dag") a.tree declared j dag tasks := by
  obtain ⟨e, root, found, rooted, free, rfl⟩ := runbook_ok rendered
  let s : RunbookScope := ⟨p, id, e, a⟩
  have distinct : ((shownMain root (s.taskId root) s.mainName (s.ownedAt root "dag") a.tree
      (s.targetEntity? s.defaultTarget?) :: a.tree.allNodes.map (s.shown root)).map
        (Json.text? "name")).Nodup := taskNames_nodup (s := s) built free
  refine ⟨e, s.taskId root, _, a.tree.allNodes.map (s.shown root), found, rfl, ?_,
    showsMain_shownMain .., ?_, distinct, ?_, fun sub mem => built_level built mem, ?_⟩
  · exact List.forall_mem_cons.mpr ⟨nofun, List.forall_mem_map.mpr fun _ _ => nofun⟩
  · exact List.forall₂_map_right_iff.mpr
      (List.forall₂_same.mpr fun n _ => showsTask_shownTask root _ n _)
  · rw [childrenIn_shownRunbook]
    exact (TaskTree.levels_perm a.tree).map _
  · intro o mem kind
    rcases references_shownRunbook built o mem kind with rfl | ⟨x, known, rfl⟩
    · exact ⟨_, ⟨List.mem_cons_self, rfl, rfl⟩, fun d other =>
        List.inj_on_of_nodup_map distinct other.1 List.mem_cons_self other.2.1⟩
    · obtain ⟨n, node, rfl⟩ := List.mem_map.mp known
      have listed := List.mem_cons_of_mem (shownMain root (s.taskId root) s.mainName
        (s.ownedAt root "dag") a.tree (s.targetEntity? s.defaultTarget?))
        (List.mem_map_of_mem (f := s.shown root) node)
      exact ⟨_, ⟨listed, rfl, rfl⟩, fun d other =>
        List.inj_on_of_nodup_map distinct other.1 listed other.2.1⟩

/-- A decision inside a loop, and a step that waits for the loop. -/
theorem runbook_faithful_loop :
    let delay := fun name => Call.step (τ := ScopeToken) { name, work := .delay 1 }
    let calls := [.openLoop { name := "l", iterations := "3" },
      .openDecision { name := "d", script := { text := "" } }, .openBranch .success, delay "a",
      .close ⟨0, 3, .branch .success⟩, .openBranch .failure, .close ⟨0, 4, .branch .failure⟩,
      .close ⟨0, 2, .decision⟩, .close ⟨0, 1, .loop⟩, delay "b"]
    let root : Entity := { kind := .runbook, name := "R" }
    let graph : EntityGraph := { declared := [⟨root, 0⟩], root := some 0 }
    let p : Payload := { resolved := { graph, root := 0, reachable := [0] }, context := {} }
    ∃ (t : TaskTree) (j : Json), ((TaskBuilder.new 0 "run").run calls).finish = .ok t ∧
      p.runbook 0 { name := "run", tree := t } = .ok j ∧
      ∃ e ids dag tasks, p.entity 0 = .ok e ∧
        ShowsTree ids (e.name ++ "_" ++ "run" ++ "_dag") t ["l", "d", "a", "b"] j dag tasks := by
  intro delay calls root graph p
  obtain ⟨t, finished, declared⟩ : ∃ t, ((TaskBuilder.new 0 "run").run calls).finish = .ok t ∧
      ((TaskBuilder.new 0 "run").made calls).filterMap Call.declares? = ["l", "d", "a", "b"] :=
    ⟨_, rfl, rfl⟩
  obtain ⟨j, rendered⟩ : ∃ j, p.runbook 0 { name := "run", tree := t } = .ok j := by
    cases finished
    exact ⟨_, rfl⟩
  exact ⟨t, j, finished, rendered, runbook_faithful ⟨0, "run", calls, finished, declared⟩ rendered⟩

end Blueprint.Payload
