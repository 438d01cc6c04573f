import Blueprint.Payload.Basic

/-!
# Runbooks

An action becomes a runbook: a main task that holds the top level as a graph, followed by every task
depth first. The children and edges of a nested level stand in its decision or loop. A task is put
in the list once those nested in it are there; until then its place is null.
-/

namespace Blueprint.Payload

/-- The owner of a runbook. -/
structure RunbookScope where
  payload : Payload
  id : EntityId
  entity : Entity
  action : Action

/-- The child tasks and the edges of a level. -/
structure LevelRefs where
  children : List Json := []
  edges : List Json := []

def LevelRefs.branch (l : LevelRefs) : Json :=
  .obj [("child_tasks_local_reference_list", .arr l.children), ("edges", .arr l.edges)]

namespace RunbookScope

def path (s : RunbookScope) : String := "action/" ++ s.action.name ++ "/"

def ownedId (s : RunbookScope) (path : String) : Rendered Uuid :=
  s.payload.ownedId s.entity (s.path ++ path)

def taskRef (s : RunbookScope) (name : String) : Rendered Json := do
  return reference "app_task" name (← s.ownedId ("task/" ++ name))

def edge (s : RunbookScope) (a b : String) : Rendered Json := do
  return .obj [("from_task_reference", ← s.taskRef a), ("to_task_reference", ← s.taskRef b)]

def scriptFields (s : Script) : List (String × Json) :=
  [("script_type", .str s.type.wire), ("script", .str s.text)]

def workAttrs : Work → Json
  | .exec s => .obj (scriptFields s)
  | .setVariable s vars =>
    .obj (scriptFields s ++ [("eval_variables", .ofStrings vars)])
  | .http r => .obj
      [("method", .str r.method), ("url", .str r.url), ("request_body", .str r.body),
        ("headers", .arr (r.headers.entries.map fun (k, v) =>
          .obj [("name", .str k), ("value", .str v)])),
        ("expected_response_params", Variable.expected r.statusCodes),
        ("response_paths", .obj (r.responsePaths.entries.map fun (k, v) => (k, .str v)))]
  | .scaling direction count =>
    .obj [("scaling_type", .str direction.wire), ("scaling_count", .str count)]
  | .delay seconds => .obj [("interval_secs", .ofNat seconds)]
  | .input inputs => .obj [("inputs", .arr (inputs.map fun i =>
      .obj [("name", .str i), ("input_type", .str "text"), ("options", .arr [])]))]

def targetFields (s : RunbookScope) (target : Option EntityId) : Rendered (List (String × Json)) :=
  match target with
  | some t => return [("target_any_local_reference", ← s.payload.localRef t)]
  | none => return []

def fill (s : RunbookScope) (n : TaskNode) (place : Nat) (attrs : Json) (children : List Json)
    (out : List Json) : Rendered (List Json) := do
  let id ← s.ownedId ("task/" ++ n.name)
  let target ← s.targetFields (s.payload.resolved.target? s.id s.action.name n.name)
  return out.set place <| .obj <|
    [("name", .str n.name), ("description", .str n.head.description), ("uuid", .str id.text),
      ("type", .str n.wire), ("attrs", attrs), ("variable_list", .arr []),
      ("child_tasks_local_reference_list", .arr children)] ++ target ++
    [("retries", .ofNat n.head.retries), ("timeout_secs", .ofNat n.head.timeoutSecs)]

mutual

def level (s : RunbookScope) : List TaskNode → List Json → Rendered (LevelRefs × List Json)
  | [], out => return ({}, out)
  | n :: ns, out => do
    let out ← s.task n out
    let child ← s.taskRef n.name
    let edges ← n.predecessors.mapM fun x => s.edge x n.name
    let (rest, out) ← s.level ns out
    return ({ children := child :: rest.children, edges := edges ++ rest.edges }, out)

/-- The place of a task is kept free until the tasks nested in it are rendered. -/
def task (s : RunbookScope) (n : TaskNode) (out : List Json) : Rendered (List Json) :=
  match n with
  | .leaf _ w => s.fill n out.length (workAttrs w) [] (out ++ [.null])
  | .decision _ script success failure => do
    let (success, rest) ← s.level success (out ++ [.null])
    let (failure, rest) ← s.level failure rest
    let branches := [("success_branch", success.branch), ("failure_branch", failure.branch)]
    s.fill n out.length (.obj (scriptFields script ++ branches)) [] rest
  | .loop _ iterations loopVariable body => do
    let (body, rest) ← s.level body (out ++ [.null])
    let attrs := .obj [("iterations", .str iterations), ("loop_variable", .str loopVariable),
      ("exit_condition_type", .str "dont_care"), ("edges", .arr body.edges)]
    s.fill n out.length attrs body.children rest

end

def defaultTarget? (s : RunbookScope) : Option EntityId :=
  match s.entity.kind.schema.defaultTarget with
  | .self => some s.id
  | .slot slot => (s.payload.resolved.slot s.id slot).head?
  | .none => none

def mainName (s : RunbookScope) : String := s.entity.name ++ "_" ++ s.action.name ++ "_dag"

def mainTask (s : RunbookScope) (id : Uuid) (top : LevelRefs) : Rendered Json := do
  let target ← s.targetFields s.defaultTarget?
  return .obj <|
    [("name", .str s.mainName), ("description", .str ""), ("uuid", .str id.text),
      ("type", .str "DAG"), ("attrs", .obj [("edges", .arr top.edges)]), ("variable_list", .arr []),
      ("child_tasks_local_reference_list", .arr top.children), ("retries", .int 0),
      ("timeout_secs", .int 0)] ++ target

end RunbookScope

def runbook (p : Payload) (id : EntityId) (a : Action) : Rendered Json := do
  let e ← p.entity id
  let s : RunbookScope := ⟨p, id, e, a⟩
  if (a.tree.allNodes.map TaskNode.name).contains s.mainName then
    .error (.structural a.name (.reservedName s.mainName))
  let mainId ← s.ownedId "dag"
  let (top, tasks) ← s.level a.tree [.null]
  let main ← s.mainTask mainId top
  let runbookId ← s.ownedId "runbook"
  return .obj
    [("name", .str (e.name ++ "_" ++ a.name ++ "_runbook")), ("description", .str a.description),
      ("uuid", .str runbookId.text),
      ("main_task_local_reference", reference "app_task" s.mainName mainId),
      ("task_definition_list", .arr (tasks.set 0 main)),
      ("variable_list", ← p.variableList e s.path a.vars.values)]

/-- A system action that is not declared. -/
def stub (name : String) : Action := { name, kind := .system, tree := [] }

/-- The runbook of a system action that has a place of its own. -/
def runbookFor (p : Payload) (id : EntityId) (name : String) : Rendered Json := do
  let e ← p.entity id
  p.runbook id ((e.actions.get? name).getD (stub name))

def action (p : Payload) (id : EntityId) (a : Action) (wireName : String) : Rendered Json := do
  let e ← p.entity id
  let actionId ← p.ownedId e ("action/" ++ a.name)
  return .obj
    [("name", .str wireName), ("description", .str a.description), ("uuid", .str actionId.text),
      ("type", .str a.kind.name), ("critical", .bool a.critical), ("runbook", ← p.runbook id a)]

/-- The system actions that are listed, in the order of the schema. -/
def listedSystemActions (e : Entity) : List (Action × String) :=
  e.kind.schema.systemActions.filterMap fun sa =>
    if sa.placement ≠ .actionList then none
    else
      match e.actions.get? sa.name with
      | some a => some (a, sa.wire)
      | none => if e.kind.schema.emitAllSystem then some (stub sa.name, sa.wire) else none

def userActions (e : Entity) : List (Action × String) :=
  (e.actions.values.filter fun a => a.kind == .user).map fun a => (a, a.name)

/-- System actions come before user actions. -/
def actionList (p : Payload) (id : EntityId) : Rendered Json := do
  let e ← p.entity id
  return .arr (← (listedSystemActions e ++ userActions e).mapM fun (a, wire) => p.action id a wire)

end Blueprint.Payload
