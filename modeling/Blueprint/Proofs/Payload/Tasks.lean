import Blueprint.Proofs.Json.Objects
import Blueprint.Proofs.Payload.Parts
import Blueprint.Proofs.Task.Levels

/-!
# Tasks inside a runbook

Which tasks the object of a task lists as children and refers to. Whatever is no task refers to
none.
-/

namespace Blueprint.Payload

/-- The child tasks that are listed anywhere in a value. -/
def childrenIn (j : Json) : List Json :=
  j.objects.flatMap (Json.items "child_tasks_local_reference_list")

/-- A value whose references to tasks all name one of these tasks. -/
def Mentions (ids : String → Uuid) (names : List String) (j : Json) : Prop :=
  ∀ o ∈ j.objects, o.text? "kind" = some "app_task" → ∃ x ∈ names, o = taskRefTo ids x

/-- A value that has to do with no task. -/
def Silent (j : Json) : Prop :=
  ∀ o ∈ j.objects, o.text? "kind" ≠ some "app_task" ∧
    o.items "child_tasks_local_reference_list" = []

theorem Silent.childrenIn {j : Json} (h : Silent j) : childrenIn j = [] :=
  List.flatMap_eq_nil_iff.mpr fun o mem => (h o mem).2

theorem Silent.mentions {j : Json} (h : Silent j) (ids : String → Uuid) (names : List String) :
    Mentions ids names j :=
  fun o mem kind => ((h o mem).1 kind).elim

/-! ### What is no task -/

@[simp] theorem silent_str (s : String) : Silent (.str s) := by simp [Silent]

@[simp] theorem silent_bool (b : Bool) : Silent (.bool b) := by simp [Silent]

@[simp] theorem silent_int (i : Int) : Silent (.int i) := by simp [Silent]

@[simp] theorem silent_ofNat (n : Nat) : Silent (.ofNat n) := silent_int n

@[simp] theorem silent_arr (js : List Json) : Silent (.arr js) ↔ ∀ j ∈ js, Silent j := by
  simp only [Silent, Json.objects_arr, List.mem_flatMap, forall_exists_index, and_imp]
  exact ⟨fun h j mem o inside => h o j mem inside, fun h o j mem inside => h j mem o inside⟩

@[simp] theorem silent_ofStrings (ss : List String) : Silent (.ofStrings ss) := by
  simp [Json.ofStrings]

theorem get?_none_of_ne {α : Type} {k : String} {fields : List (String × α)}
    (h : ∀ f ∈ fields, f.1 ≠ k) : Entries.get? k fields = none := by
  induction fields with
  | nil => rfl
  | cons f fields ih =>
    rw [Entries.get?, if_neg (h f List.mem_cons_self)]
    exact ih fun g mem => h g (List.mem_cons_of_mem _ mem)

theorem silent_obj {fields : List (String × Json)}
    (h : ∀ f ∈ fields, f.1 ≠ "kind" ∧ f.1 ≠ "child_tasks_local_reference_list" ∧
      (f.1 ≠ "response_paths" → Silent f.2)) : Silent (.obj fields) := by
  refine Json.forall_objects_obj ?_ fun f mem => (h f mem).2.2
  have kind := get?_none_of_ne fun f mem => (h f mem).1
  have children := get?_none_of_ne fun f mem => (h f mem).2.1
  simp [Json.text?, Json.items, Json.get?, kind, children]

theorem silent_map {α : Type} {xs : List α} {f : α → Json} (h : ∀ x ∈ xs, Silent (f x)) :
    Silent (.arr (xs.map f)) := by
  rw [silent_arr]
  exact List.forall_mem_map.mpr h

theorem silent_expected (codes : List Nat) : Silent (Variable.expected codes) :=
  silent_map fun _ _ => silent_obj (by simp)

theorem silent_work (w : Work) : Silent (RunbookScope.workAttrs w) := by
  cases w with
  | exec s => exact silent_obj (by simp [RunbookScope.scriptFields])
  | setVariable s vars => exact silent_obj (by simp [RunbookScope.scriptFields])
  | http r =>
    have header : ∀ k v : String, Silent (.obj [("name", .str k), ("value", .str v)]) :=
      fun _ _ => silent_obj (by simp)
    refine silent_obj ?_
    simp only [List.forall_mem_cons]
    simp [silent_map fun (h : String × String) (_ : h ∈ r.headers.entries) => header h.1 h.2,
      silent_expected, -silent_arr]
  | scaling direction count => exact silent_obj (by simp)
  | delay seconds => exact silent_obj (by simp)
  | input inputs =>
    have each : Silent (.arr (inputs.map fun i =>
        .obj [("name", .str i), ("input_type", .str "text"), ("options", .arr [])])) :=
      silent_map fun _ _ => silent_obj (by simp)
    exact silent_obj (by simpa [-silent_arr] using each)

theorem silent_options {v : Variable} {o : Json} (h : v.options? = some o) : Silent o := by
  unfold Variable.options? at h
  split at h <;> cases h
  · exact silent_obj (by simp)
  · exact silent_obj (by simp [silent_obj])
  · have attrs := silent_expected [200]
    refine silent_obj ?_
    simp only [List.forall_mem_cons]
    simp [attrs, silent_obj]

theorem silent_variable (v : Variable) (id : Uuid) : Silent (v.payload id) := by
  refine silent_obj ?_
  simp only [List.forall_mem_append, List.forall_mem_cons, List.forall_mem_map, Option.mem_toList]
  refine ⟨⟨?_, fun o given => ?_⟩, fun r _ => ?_⟩
  · simp [silent_obj]
  · simp [silent_options given]
  · simp [silent_obj]

theorem silent_vars (root e : Entity) (scope : String) (vs : List Variable) :
    Silent (shownVars root e scope vs) := by
  simp [shownVars, silent_variable]

theorem refKind_ne (k : EntityKind) : k.refKind ≠ "app_task" := by cases k <;> decide

theorem silent_refTo (root e : Entity) : Silent (refTo root e) := by
  refine Json.forall_objects_obj ?_ (by simp)
  simp [Json.asString?, refKind_ne]

/-! ### The children of a task -/

@[simp] theorem childrenIn_arr (js : List Json) : childrenIn (.arr js) = js.flatMap childrenIn := by
  rw [childrenIn, Json.objects_arr, List.flatMap_assoc]
  rfl

theorem childrenIn_obj (fields : List (String × Json)) : childrenIn (.obj fields) =
    Json.items "child_tasks_local_reference_list" (.obj fields) ++
      fields.flatMap fun f => if f.1 = "response_paths" then [] else childrenIn f.2 := by
  rw [childrenIn, Json.objects_obj, List.flatMap_cons, List.flatMap_assoc]
  congr 2
  funext f
  split <;> rfl

theorem childrenIn_taskRefTo (ids : String → Uuid) (x : String) :
    childrenIn (taskRefTo ids x) = [] := by
  simp [taskRefTo, reference, childrenIn]

theorem childrenIn_childList (ids : String → Uuid) (t : TaskTree) :
    childrenIn (.arr (childList ids t)) = [] := by
  simp [childList, List.flatMap_map, childrenIn_taskRefTo]

theorem childrenIn_edgeList (ids : String → Uuid) (t : TaskTree) :
    childrenIn (.arr (edgeList ids t)) = [] := by
  have each : ∀ e, childrenIn (edgeTo ids e) = [] := by
    intro e
    simp [edgeTo, childrenIn_obj, childrenIn_taskRefTo]
  simp [edgeList, List.flatMap_map, each]

theorem childrenIn_branch (ids : String → Uuid) (t : TaskTree) :
    childrenIn (levelRefs ids t).branch = childList ids t := by
  simp [LevelRefs.branch, levelRefs, childrenIn_obj, Json.asArray?, childrenIn_childList, childrenIn_edgeList, -childrenIn_arr]

theorem childrenIn_target (root : Entity) (target : Option Entity) :
    ((targetField root target).flatMap fun f =>
      if f.1 = "response_paths" then [] else childrenIn f.2) = [] := by
  cases target <;> simp [targetField, (silent_refTo root _).childrenIn]

theorem childrenIn_shownTask (root : Entity) (ids : String → Uuid) (n : TaskNode)
    (target : Option Entity) :
    childrenIn (shownTask root ids n target) = n.levels.flatMap (childList ids) := by
  have attrs : shownChildren ids n ++ childrenIn (shownAttrs ids n) =
      n.levels.flatMap (childList ids) := by
    cases n with
    | leaf head w => simp [shownAttrs, shownChildren, TaskNode.levels, (silent_work w).childrenIn]
    | decision head script success failure =>
      simp [shownAttrs, shownChildren, TaskNode.levels, RunbookScope.scriptFields, childrenIn_obj,
        childrenIn_branch, (silent_str _).childrenIn]
    | loop head iterations loopVariable body =>
      simp [shownAttrs, shownChildren, TaskNode.levels, childrenIn_obj,
        childrenIn_edgeList, (silent_str _).childrenIn, -childrenIn_arr]
  have own : childrenIn (.arr (shownChildren ids n)) = [] := by
    cases n with
    | loop head iterations loopVariable body => exact childrenIn_childList ids body
    | _ => rfl
  rw [← attrs, shownTask, childrenIn_obj, List.flatMap_append, List.flatMap_append,
    childrenIn_target]
  simp [Json.asArray?, Silent.childrenIn, own, -childrenIn_arr]

theorem childrenIn_shownMain (root : Entity) (ids : String → Uuid) (name : String) (id : Uuid)
    (t : TaskTree) (target : Option Entity) :
    childrenIn (shownMain root ids name id t target) = childList ids t := by
  rw [shownMain, childrenIn_obj, List.flatMap_append, childrenIn_target]
  simp [Json.asArray?, Silent.childrenIn, childrenIn_obj,
    childrenIn_childList, childrenIn_edgeList, -childrenIn_arr]

theorem childrenIn_shownRunbook (s : RunbookScope) (root : Entity) :
    childrenIn (shownRunbook s root) =
      (s.action.tree.levels.flatten).map fun n => taskRefTo (s.taskId root) n.name := by
  have levels : ∀ ts : List TaskTree, ts.flatMap (childList (s.taskId root)) =
      ts.flatten.map fun n => taskRefTo (s.taskId root) n.name := by
    intro ts
    rw [List.flatMap_def, List.map_flatten]
    rfl
  have tasks : (s.action.tree.allNodes.map (s.shown root)).flatMap childrenIn =
      (s.action.tree.allNodes.flatMap TaskNode.levels).flatMap (childList (s.taskId root)) := by
    rw [List.flatMap_map, List.flatMap_assoc]
    congr 1
    funext n
    exact childrenIn_shownTask root _ n _
  have main : childrenIn (reference "app_task" s.mainName (s.ownedAt root "dag")) = [] :=
    childrenIn_taskRefTo (fun _ => s.ownedAt root "dag") s.mainName
  rw [TaskTree.levels, ← levels, List.flatMap_cons, ← tasks]
  simp [shownRunbook, childrenIn_obj (_ :: _),
    Silent.childrenIn, main, childrenIn_shownMain, silent_vars]

/-! ### References to tasks -/

section Mentions

variable {ids : String → Uuid} {names : List String}

theorem mentions_arr {js : List Json} (h : ∀ j ∈ js, Mentions ids names j) :
    Mentions ids names (.arr js) := by
  intro o mem
  rw [Json.objects_arr] at mem
  obtain ⟨j, inside, mem⟩ := List.mem_flatMap.mp mem
  exact h j inside o mem

theorem mentions_obj {fields : List (String × Json)} (kind : ∀ f ∈ fields, f.1 ≠ "kind")
    (parts : ∀ f ∈ fields, Mentions ids names f.2) : Mentions ids names (.obj fields) := by
  refine Json.forall_objects_obj (fun h => ?_) fun f mem _ => parts f mem
  rw [Json.text?, Json.get?, get?_none_of_ne kind] at h
  cases h

theorem mentions_taskRefTo {x : String} (known : x ∈ names) :
    Mentions ids names (taskRefTo ids x) :=
  Json.forall_objects_obj (fun _ => ⟨x, known, rfl⟩) (by simp)

def Covers (names : List String) (t : TaskTree) : Prop :=
  (∀ n ∈ t, n.name ∈ names) ∧ ∀ e ∈ t.edges, e.1 ∈ names ∧ e.2 ∈ names

theorem mentions_childList {t : TaskTree} (known : Covers names t) :
    Mentions ids names (.arr (childList ids t)) :=
  mentions_arr (List.forall_mem_map.mpr fun n mem => mentions_taskRefTo (known.1 n mem))

theorem mentions_edgeList {t : TaskTree} (known : Covers names t) :
    Mentions ids names (.arr (edgeList ids t)) := by
  refine mentions_arr (List.forall_mem_map.mpr fun e mem => mentions_obj (by simp) ?_)
  simp [mentions_taskRefTo, known.2 e mem]

theorem mentions_branch {t : TaskTree} (known : Covers names t) :
    Mentions ids names (levelRefs ids t).branch :=
  mentions_obj (by simp)
    (by simp [levelRefs, mentions_childList known, mentions_edgeList known])

theorem targetField_key (root : Entity) (target : Option Entity) :
    ∀ f ∈ targetField root target, f.1 = "target_any_local_reference" := by
  cases target <;> simp [targetField]

theorem mentions_target (root : Entity) (target : Option Entity) :
    ∀ f ∈ targetField root target, Mentions ids names f.2 := by
  cases target <;> simp [targetField, (silent_refTo root _).mentions]

theorem mentions_shownTask (root : Entity) {n : TaskNode} (target : Option Entity)
    (known : ∀ t ∈ n.levels, Covers names t) :
    Mentions ids names (shownTask root ids n target) := by
  have attrs : Mentions ids names (shownAttrs ids n) := by
    cases n with
    | leaf head w => exact (silent_work w).mentions ids names
    | decision head script success failure =>
      have first := known success (List.mem_cons_self ..)
      have second := known failure (List.mem_cons_of_mem _ List.mem_cons_self)
      exact mentions_obj (by simp [RunbookScope.scriptFields]) (by
        simp [RunbookScope.scriptFields, mentions_branch first, mentions_branch second,
          Silent.mentions])
    | loop head iterations loopVariable body =>
      have body : Mentions ids names (.arr (edgeList ids body)) :=
        mentions_edgeList (known body List.mem_cons_self)
      exact mentions_obj (by simp) (by simp [body, Silent.mentions])
  have children : Mentions ids names (.arr (shownChildren ids n)) := by
    cases n with
    | loop head iterations loopVariable body =>
      exact mentions_childList (known body List.mem_cons_self)
    | _ => exact mentions_arr (by simp [shownChildren])
  refine mentions_obj ?_ ?_ <;> simp only [List.forall_mem_append]
  · refine ⟨⟨by simp, fun f mem => ?_⟩, by simp⟩
    rw [targetField_key root target f mem]
    decide
  · exact ⟨⟨by simp [attrs, children, Silent.mentions], mentions_target root target⟩,
      by simp [Silent.mentions]⟩

theorem mentions_shownMain (root : Entity) (name : String) (id : Uuid) {t : TaskTree}
    (target : Option Entity) (known : Covers names t) :
    Mentions ids names (shownMain root ids name id t target) := by
  have edges : Mentions ids names (.obj [("edges", .arr (edgeList ids t))]) :=
    mentions_obj (by simp) (by simp [mentions_edgeList known])
  refine mentions_obj ?_ ?_ <;> simp only [List.forall_mem_append]
  · refine ⟨by simp, fun f mem => ?_⟩
    rw [targetField_key root target f mem]
    decide
  · exact ⟨by simp [edges, mentions_childList known, Silent.mentions], mentions_target root target⟩

end Mentions

end Blueprint.Payload
