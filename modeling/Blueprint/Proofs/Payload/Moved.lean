import Blueprint.Payload.Document
import Blueprint.Proofs.Graph.Redeclared

/-!
# Payloads of moved entities

A payload does not show where its entities were declared, nor how strictly macros were checked:
every part of it is rendered in the same way from the same entities in other places, up to the whole
document.
-/

namespace Blueprint

/-- What a payload can show of a context. -/
def CompileContext.lenient (c : CompileContext) : CompileContext := { c with strictMacros := false }

namespace Payload

/-- The same payload, rendered from entities in other places. -/
structure Moved (π : EntityId → EntityId) (p p' : Payload) : Prop where
  resolved : p.resolved.Moved π p'.resolved
  context : p'.context.lenient = p.context.lenient

namespace Moved

variable {π : EntityId → EntityId} {p p' : Payload} {id : EntityId}

theorem entity (h : Moved π p p') (met : id ∈ p.resolved.reachable) :
    ∃ e, p.entity id = .ok e ∧ p'.entity (π id) = .ok (e.rename π) := by
  obtain ⟨e, here, there⟩ := h.resolved.entity id met
  exact ⟨e, EntityGraph.entity_ok.mpr here, EntityGraph.entity_ok.mpr there⟩

/-! ### Identifiers and references -/

theorem identifier (h : Moved π p p') (path : String) : p'.identifier path = p.identifier path := by
  obtain ⟨root, here, there⟩ := h.entity h.resolved.first
  rw [Payload.identifier, Payload.identifier, h.resolved.root, here, there]
  rfl

theorem ownedId (h : Moved π p p') (e : Entity) (path : String) :
    p'.ownedId (e.rename π) path = p.ownedId e path :=
  h.identifier _

theorem localRef (h : Moved π p p') (met : id ∈ p.resolved.reachable) :
    p'.localRef (π id) = p.localRef id := by
  obtain ⟨e, here, there⟩ := h.entity met
  rw [Payload.localRef, Payload.localRef, here, there]
  exact congrArg (· >>= fun uuid => pure (reference e.kind.refKind e.name uuid))
    (h.identifier (entityPath e))

theorem slotRefs (h : Moved π p p') (met : id ∈ p.resolved.reachable) (slot : String) :
    p'.slotRefs (π id) slot = p.slotRefs id slot := by
  have each := mapM_map_eq fun t listed => h.localRef (h.resolved.slots id slot t listed)
  rw [Payload.slotRefs, Payload.slotRefs, h.resolved.slot id met, each]

theorem slotRef (h : Moved π p p') (met : id ∈ p.resolved.reachable) (slot : String) :
    p'.slotRef (π id) slot = p.slotRef id slot := by
  rw [Payload.slotRef, Payload.slotRef, h.resolved.slot id met, List.head?_map]
  cases first : (p.resolved.slot id slot).head? with
  | none => rfl
  | some t => exact h.localRef (h.resolved.slots id slot t (List.mem_of_mem_head? first))

theorem lookup (h : Moved π p p') (t : LookupTable) (name source : String) :
    p'.lookup t name source = p.lookup t name source := by
  have known : p'.context.lookup? t name = p.context.lookup? t name :=
    congrArg (fun c => c.lookup? t name) h.context
  rw [Payload.lookup, Payload.lookup, known]

theorem lookupList (h : Moved π p p') (e : Entity) (key : String) (t : LookupTable) :
    p'.lookupList (e.rename π) key t = p.lookupList e key t := by
  simp only [Payload.lookupList, h.lookup]
  rfl

/-! ### Attributes and variables -/

theorem baseFields (h : Moved π p p') (e : Entity) :
    p'.baseFields (e.rename π) = p.baseFields e :=
  congrArg (· >>= _) (h.identifier _)

theorem variableList (h : Moved π p p') (e : Entity) (scope : String) (vs : List Variable) :
    p'.variableList (e.rename π) scope vs = p.variableList e scope vs := by
  simp only [Payload.variableList, h.ownedId]

theorem vars (h : Moved π p p') (e : Entity) : p'.vars (e.rename π) = p.vars e :=
  h.variableList e "" e.vars.values

end Moved

/-! ### Runbooks -/

/-- The scope of the same runbook, with its owner in another place. -/
def RunbookScope.move (π : EntityId → EntityId) (p' : Payload) (s : RunbookScope) : RunbookScope :=
  ⟨p', π s.id, s.entity.rename π, s.action.rename π⟩

namespace Moved

section Runbook

variable {π : EntityId → EntityId} {p' : Payload} {s : RunbookScope} (h : Moved π s.payload p')

include h

theorem ownedId_move (path : String) : (s.move π p').ownedId path = s.ownedId path :=
  h.ownedId s.entity _

theorem taskRef (name : String) : (s.move π p').taskRef name = s.taskRef name :=
  congrArg (· >>= _) (h.ownedId_move _)

theorem edge (x y : String) : (s.move π p').edge x y = s.edge x y := by
  rw [RunbookScope.edge, RunbookScope.edge, h.taskRef, h.taskRef]

theorem targetFields {target : Option EntityId}
    (known : ∀ t ∈ target, t ∈ s.payload.resolved.reachable) :
    (s.move π p').targetFields (target.map π) = s.targetFields target := by
  cases target with
  | none => rfl
  | some t => exact congrArg (· >>= _) (h.localRef (known t rfl))

theorem fill (met : s.id ∈ s.payload.resolved.reachable) (n : TaskNode) (place : Nat) (attrs : Json)
    (children out : List Json) :
    (s.move π p').fill (n.rename π) place attrs children out = s.fill n place attrs children out := by
  have target : (s.move π p').targetFields
        (p'.resolved.target? (π s.id) s.action.name n.name) =
      s.targetFields (s.payload.resolved.target? s.id s.action.name n.name) := by
    rw [h.resolved.target s.id met]
    exact h.targetFields fun t found => h.resolved.targets s.id s.action.name n.name t found
  simp only [RunbookScope.fill, TaskNode.name_rename, TaskNode.wire_rename, TaskNode.head_rename,
    h.ownedId_move]
  exact congrArg _ (funext fun uuid => congrArg (· >>= _) target)

end Runbook

mutual

theorem level {π : EntityId → EntityId} {p' : Payload} {s : RunbookScope} (h : Moved π s.payload p')
    (met : s.id ∈ s.payload.resolved.reachable) : ∀ (ns : List TaskNode) (out : List Json),
    (s.move π p').level (TaskNode.renameAll π ns) out = s.level ns out
  | [], out => rfl
  | n :: ns, out => by
    rw [TaskNode.renameAll, RunbookScope.level, RunbookScope.level, h.task met n out]
    simp only [TaskNode.name_rename, TaskNode.predecessors_rename, h.taskRef, h.edge, h.level met ns]

theorem task {π : EntityId → EntityId} {p' : Payload} {s : RunbookScope} (h : Moved π s.payload p')
    (met : s.id ∈ s.payload.resolved.reachable) : ∀ (n : TaskNode) (out : List Json),
    (s.move π p').task (n.rename π) out = s.task n out
  | .leaf head w, out => h.fill met (.leaf head w) _ _ _ _
  | .decision head script success failure, out => by
    have fill := h.fill met (.decision head script success failure)
    simp only [TaskNode.rename] at fill
    simp only [TaskNode.rename, RunbookScope.task, h.level met success, h.level met failure, fill]
  | .loop head iterations loopVariable body, out => by
    have fill := h.fill met (.loop head iterations loopVariable body)
    simp only [TaskNode.rename] at fill
    simp only [TaskNode.rename, RunbookScope.task, h.level met body, fill]

end

section Actions

variable {π : EntityId → EntityId} {p p' : Payload} {id : EntityId} (h : Moved π p p')
  (met : id ∈ p.resolved.reachable)

include h met

theorem mainTarget (e : Entity) (a : Action) :
    (RunbookScope.mk p' (π id) (e.rename π) (a.rename π)).defaultTarget? =
      (RunbookScope.mk p id e a).defaultTarget?.map π := by
  unfold RunbookScope.defaultTarget?
  rw [Entity.kind_rename]
  cases e.kind.schema.defaultTarget with
  | self => rfl
  | none => rfl
  | slot slot =>
    dsimp only
    rw [h.resolved.slot id met, List.head?_map]

theorem mainTask (e : Entity) (a : Action) (uuid : Uuid) (top : LevelRefs) :
    (RunbookScope.mk p' (π id) (e.rename π) (a.rename π)).mainTask uuid top =
      (RunbookScope.mk p id e a).mainTask uuid top := by
  have known : ∀ t ∈ (RunbookScope.mk p id e a).defaultTarget?, t ∈ p.resolved.reachable := by
    intro t target
    unfold RunbookScope.defaultTarget? at target
    split at target
    · exact Option.some.inj target ▸ met
    · exact h.resolved.slots id _ t (List.mem_of_mem_head? target)
    · cases target
  have target := h.targetFields (s := ⟨p, id, e, a⟩) known
  exact congrArg (· >>= _) ((congrArg _ (h.mainTarget met e a)).trans target)

theorem runbook (a : Action) : p'.runbook (π id) (a.rename π) = p.runbook id a := by
  obtain ⟨e, here, there⟩ := h.entity met
  have names : (a.rename π).tree.allNodes.map TaskNode.name = a.tree.allNodes.map TaskNode.name := by
    simp [Action.rename, Function.comp_def]
  have level : (RunbookScope.mk p' (π id) (e.rename π) (a.rename π)).level (a.rename π).tree [.null] =
    (RunbookScope.mk p id e a).level a.tree [.null] := h.level (s := ⟨p, id, e, a⟩) met a.tree _
  have owned : ∀ path, (RunbookScope.mk p' (π id) (e.rename π) (a.rename π)).ownedId path =
    (RunbookScope.mk p id e a).ownedId path := h.ownedId_move (s := ⟨p, id, e, a⟩)
  simp only [Payload.runbook, here, there, ok_bind, names, level, owned, h.mainTask met,
    h.variableList]
  rfl

theorem runbookFor (name : String) : p'.runbookFor (π id) name = p.runbookFor id name := by
  obtain ⟨e, here, there⟩ := h.entity met
  have action : ((e.rename π).actions.get? name).getD (stub name) =
      ((e.actions.get? name).getD (stub name)).rename π := by
    rw [Entity.rename, OrderedMap.get?_mapValues]
    cases e.actions.get? name <;> rfl
  rw [Payload.runbookFor, Payload.runbookFor, here, there, ok_bind, ok_bind, action, h.runbook met]

theorem action (a : Action) (wire : String) :
    p'.action (π id) (a.rename π) wire = p.action id a wire := by
  obtain ⟨e, here, there⟩ := h.entity met
  simp only [Payload.action, here, there, ok_bind, h.ownedId, h.runbook met]
  rfl

omit h met in
theorem listedSystemActions_rename (e : Entity) : listedSystemActions (e.rename π) =
    (listedSystemActions e).map fun (a, wire) => (a.rename π, wire) := by
  rw [listedSystemActions, listedSystemActions, List.map_filterMap]
  refine List.filterMap_congr fun sa _ => ?_
  rw [Entity.kind_rename, Entity.rename, OrderedMap.get?_mapValues]
  split
  · rfl
  · cases e.actions.get? sa.name with
    | some a => rfl
    | none => dsimp only [Option.map_none]; split <;> rfl

omit h met in
theorem userActions_rename (e : Entity) : userActions (e.rename π) =
    (userActions e).map fun (a, wire) => (a.rename π, wire) := by
  rw [userActions, userActions, Entity.rename, OrderedMap.values_mapValues, List.filter_map]
  simp only [List.map_map]
  rfl

theorem actionList : p'.actionList (π id) = p.actionList id := by
  obtain ⟨e, here, there⟩ := h.entity met
  have listed : ((listedSystemActions e ++ userActions e).map fun (a, wire) => (a.rename π, wire)).mapM
        (fun (a, wire) => p'.action (π id) a wire) =
      (listedSystemActions e ++ userActions e).mapM fun (a, wire) => p.action id a wire :=
    mapM_map_eq fun x _ => h.action met x.1 x.2
  rw [Payload.actionList, Payload.actionList, here, there, ok_bind, ok_bind,
    listedSystemActions_rename, userActions_rename, ← List.map_append]
  exact congrArg (· >>= _) listed

/-! ### Definitions -/

theorem ending (e : Entity) : p'.ending (π id) (e.rename π) = p.ending id e := by
  rw [Payload.ending, Payload.ending, h.vars, h.actionList met]

omit met in
theorem accountFields (e : Entity) : p'.accountFields (e.rename π) = p.accountFields e := by
  simp only [Payload.accountFields, h.lookup]
  rfl

omit met in
theorem environmentRefs (e : Entity) : p'.environmentRefs (e.rename π) = p.environmentRefs e := by
  simp only [Payload.environmentRefs, h.lookup]
  rfl

theorem definition : p'.definition (π id) = p.definition id := by
  obtain ⟨e, here, there⟩ := h.entity met
  rw [Payload.definition, Payload.definition, here, there, ok_bind, ok_bind, Entity.kind_rename]
  cases e.kind <;> simp only [Payload.service, Payload.package, Payload.substrate,
    Payload.deployment, Payload.profile, Payload.credential, Payload.endpoint, h.baseFields,
    h.slotRefs met, h.slotRef met, h.vars, h.runbookFor met, h.actionList met, h.accountFields,
    h.environmentRefs, h.ending met]

end Actions

/-! ### Collections and documents -/

section Document

variable {π : EntityId → EntityId} {p p' : Payload} (h : Moved π p p')

include h

theorem reachableOfKind (k : EntityKind) :
    p'.resolved.reachableOfKind k = (p.resolved.reachableOfKind k).map π := by
  rw [ResolvedGraph.reachableOfKind, ResolvedGraph.reachableOfKind, h.resolved.reachable,
    List.filter_map]
  refine congrArg _ (List.filter_congr fun id met => ?_)
  obtain ⟨e, here, there⟩ := h.resolved.entity id met
  rw [Function.comp_apply, here, there]
  rfl

theorem collection (k : EntityKind) : p'.collection k = p.collection k := by
  have met : ∀ id ∈ p.resolved.reachableOfKind k, id ∈ p.resolved.reachable := fun id mem =>
    (List.mem_filter.mp mem).1
  have names : ((p.resolved.reachableOfKind k).map π).mapM
        (fun id => return (← p'.entity id).name) =
      (p.resolved.reachableOfKind k).mapM fun id => return (← p.entity id).name := by
    refine mapM_map_eq fun id mem => ?_
    obtain ⟨e, here, there⟩ := h.entity (met id mem)
    rw [here, there]
    rfl
  have definitions : ((p.resolved.reachableOfKind k).map π).mapM p'.definition =
      (p.resolved.reachableOfKind k).mapM p.definition :=
    mapM_map_eq fun id mem => h.definition (met id mem)
  simp only [Payload.collection, h.reachableOfKind, names, definitions]

theorem collectionField (k : EntityKind) : p'.collectionField k = p.collectionField k := by
  rw [Payload.collectionField, Payload.collectionField, h.collection]

theorem rootFields (e : Entity) :
    p'.rootFields (π p.resolved.root) (e.rename π) = p.rootFields p.resolved.root e := by
  have first := h.resolved.first
  have fields : p'.collectionField = p.collectionField := funext h.collectionField
  unfold Payload.rootFields
  rw [Entity.kind_rename]
  cases e.kind <;> simp only [Payload.blueprintFields, Payload.runbookFields,
    Payload.environmentFields, Payload.projectFields, fields, h.slotRef first, h.runbookFor first,
    h.lookupList, h.lookup]
  rfl

theorem resources : p'.resources = p.resources := by
  obtain ⟨root, here, there⟩ := h.entity h.resolved.first
  simp only [Payload.resources, h.resolved.root, here, there, ok_bind, h.rootFields, h.vars]
  rfl

theorem metadata (root : Entity) : p'.metadata (root.rename π) = p.metadata root := by
  have project : p'.context.project = p.context.project := congrArg (·.project) h.context
  simp only [Payload.metadata, project, h.lookup]
  rfl

theorem body : p'.body = p.body := by
  obtain ⟨root, here, there⟩ := h.entity h.resolved.first
  have checked : p'.resolved.reachable.forM p'.checkResolved =
      p.resolved.reachable.forM p.checkResolved := by
    rw [h.resolved.reachable]
    refine forM_map_eq fun id met => ?_
    obtain ⟨e, here, there⟩ := h.entity met
    rw [Payload.checkResolved, Payload.checkResolved, h.resolved.resolved id met, here, there]
    rfl
  have version : p'.context.apiVersion = p.context.apiVersion := congrArg (·.apiVersion) h.context
  simp only [Payload.body, checked, h.resolved.root, here, there, ok_bind, h.resources, h.metadata,
    version]
  rfl

theorem document (editables : EditableTree) : p'.document editables = p.document editables := by
  rw [Payload.document, Payload.document, h.body]

end Document

end Moved

end Payload

end Blueprint
