import Blueprint.Compile
import Blueprint.Proofs.Graph.Lifecycle
import Blueprint.Proofs.Payload.Moved
import Blueprint.Proofs.Payload.Resources

/-!
# Compiling what is declared again

The order in which entities are declared, and declarations that nothing can mean, leave no trace in
what is compiled.
-/

namespace Blueprint

variable {π : EntityId → EntityId} {r r' : ResolvedGraph} {id : EntityId}

theorem ResolvedGraph.Moved.entity_ok (h : r.Moved π r') (met : id ∈ r.reachable) :
    ∃ e, r.entity id = .ok e ∧ r'.entity (π id) = .ok (e.rename π) := by
  obtain ⟨e, here, there⟩ := h.entity id met
  exact ⟨e, EntityGraph.entity_ok.mpr here, EntityGraph.entity_ok.mpr there⟩

/-! ### Macros -/

namespace Macro

theorem actionNames_rename (a : Action) : actionNames (a.rename π) = actionNames a := by
  simp [actionNames, Action.rename, List.flatMap_map]

theorem sharedNames_moved (h : r.Moved π r') : sharedNames r' = sharedNames r := by
  rw [sharedNames, sharedNames, h.reachable]
  refine congrArg (· >>= _) (mapM_map_eq fun id met => ?_)
  obtain ⟨e, here, there⟩ := h.entity_ok met
  have root : π id = r'.root ↔ id = r.root := by
    rw [h.root]
    exact ⟨h.apart met h.first, congrArg π⟩
  simp only [here, there, ok_bind, root]
  rfl

theorem entityScope_moved (h : r.Moved π r') (shared : Scope) (met : id ∈ r.reachable) :
    entityScope r' shared (π id) = entityScope r shared id := by
  obtain ⟨e, here, there⟩ := h.entity_ok met
  have names : ((if e.kind = .package then r.slot id "services" else []).map π).mapM
        (fun s => return (← r'.entity s).vars.keys) =
      (if e.kind = .package then r.slot id "services" else []).mapM
        fun s => return (← r.entity s).vars.keys := by
    refine mapM_map_eq fun s mem => ?_
    have met : s ∈ r.reachable := by
      split at mem
      · exact h.slots id _ s mem
      · cases mem
    obtain ⟨e, here, there⟩ := h.entity_ok met
    rw [here, there]
    rfl
  have services : (if (e.rename π).kind = .package then r'.slot (π id) "services" else []) =
      (if e.kind = .package then r.slot id "services" else []).map π := by
    rw [h.slot id met, Entity.kind_rename]
    split <;> rfl
  simp only [entityScope, here, there, ok_bind, services, names]
  rfl

theorem entitySites_moved (h : r.Moved π r') (shared : Scope) (met : id ∈ r.reachable) :
    entitySites r' shared (π id) = entitySites r shared id := by
  obtain ⟨e, here, there⟩ := h.entity_ok met
  have nodes : ∀ a : Action, (a.rename π).tree.allNodes = a.tree.allNodes.map (·.rename π) :=
    fun a => TaskTree.allNodes_renameAll a.tree
  have actions : (e.rename π).actions.values = e.actions.values.map (·.rename π) :=
    e.actions.values_mapValues _
  simp only [entitySites, here, there, ok_bind, entityScope_moved h shared met, actions,
    List.flatMap_map, nodes, TaskNode.texts_rename, TaskNode.name_rename, actionNames_rename]
  rfl

theorem check_moved (h : r.Moved π r') (strict : Bool) : check r' strict = check r strict := by
  have each : ∀ shared, (r.reachable.map π).foldlM (checkEntity r' strict shared) [] =
      r.reachable.foldlM (checkEntity r strict shared) [] := fun shared =>
    foldlM_map_eq (fun found id met => by
      rw [checkEntity, checkEntity, entitySites_moved h shared met]) []
  rw [check, check, sharedNames_moved h, h.reachable]
  exact congrArg _ (funext each)

end Macro

/-! ### Editables -/

namespace EditableTree

theorem entry_rename (base : String) (e : Entity) : entry base (e.rename π) = entry base e := by
  have actions : actionEntries base (e.rename π) = actionEntries base e := by
    rw [actionEntries, actionEntries, Entity.rename, OrderedMap.values_mapValues,
      List.filterMap_map]
    rfl
  rw [entry, entry, actions]
  rfl

theorem extract_moved (h : r.Moved π r') : extract r' = extract r := by
  rw [extract, extract, h.reachable]
  refine foldlM_map_eq (fun t id met => ?_) _
  obtain ⟨e, here, there⟩ := h.entity_ok met
  have root : (π id == r'.root) = (id == r.root) := by
    rw [Bool.eq_iff_iff, beq_iff_eq, beq_iff_eq, h.root]
    exact ⟨h.apart met h.first, congrArg π⟩
  simp only [addEntity, here, there, ok_bind, root, entry_rename]
  rfl

end EditableTree

/-! ### Compiling -/

/-- A compile has a result if its passes have; no lifecycle stands in the way. -/
theorem compile_of_passes {g : EntityGraph} {context : CompileContext} {r : ResolvedGraph}
    {warnings : List Macro.Warning} {editables : EditableTree} {document : Json}
    (valid : g.validate = .ok ()) (resolved : resolveGraph g = .ok r)
    (checked : Macro.check r context.strictMacros = .ok warnings)
    (extracted : EditableTree.extract r = .ok editables)
    (rendered : (Payload.mk r context).document editables = .ok document)
    (distinct : r.reachable.Nodup) (declared : ∀ id ∈ r.reachable, id ∈ g.ids) :
    ∃ c, compile g context = .ok c ∧ c.document = document ∧ c.editables = editables ∧
      c.warnings = warnings := by
  have ids : g.ids.Nodup := List.nodup_range
  obtain ⟨l₁, bound, at₁⟩ := Lifecycle.advanced_ok (g := g) .variablesBound rfl ids
    Lifecycle.start_at
  obtain ⟨l₂, open_, at₂⟩ := Lifecycle.advanced_ok (g := g) .referencesUnresolved rfl ids at₁
  obtain ⟨l₃, closed, at₃⟩ := Lifecycle.advanced_ok (g := g) .referencesResolved rfl
    distinct (at₂.mono declared)
  obtain ⟨l₄, edited, at₄⟩ := Lifecycle.advanced_ok (g := g) .editablesExtracted rfl
    distinct at₃
  obtain ⟨l₅, serialized, -⟩ := Lifecycle.advanced_ok (g := g) .serialized rfl
    distinct at₄
  refine ⟨⟨document, editables, warnings, r, l₅⟩, ?_, rfl, rfl, rfl⟩
  simp only [compile, valid, bound, open_, resolved, closed, checked, extracted, edited, rendered,
    serialized, ok_bind]
  rfl

/-- The order of the declarations does not matter for what is compiled, and neither does anything
that is declared besides and that no reference can mean. -/
theorem compile_redeclared {g g' : EntityGraph} {context : CompileContext} {c : Compiled}
    (compiled : compile g context = .ok c) (same : Redeclared π g g') :
    ∃ c', compile g' context = .ok c' ∧ c'.document = c.document ∧ c'.editables = c.editables ∧
      c'.warnings = c.warnings := by
  obtain ⟨valid, resolved, checked, extracted, rendered⟩ := compile_passes compiled
  obtain ⟨root, -, found, -⟩ := Payload.document_ok rendered
  obtain ⟨start, first, walk⟩ := resolve_walk resolved
  have rooted : g.Rooted := by
    intro root' first'
    obtain rfl := Option.some.inj (first.symm.trans first')
    have declared := EntityGraph.entity_ok.mp found
    dsimp only at declared
    rw [walk.graph, walk.start] at declared
    exact EntityGraph.lt_size_of_entity? declared
  obtain ⟨r', resolved', moved⟩ := resolveGraph_redeclared same rooted resolved
  have moves : Payload.Moved π ⟨c.resolved, context⟩ ⟨r', context⟩ := ⟨moved, rfl⟩
  obtain ⟨_, -, visited⟩ := (resolveGraph_ok_iff (same.rooted rooted)).mp resolved'
  have search := visited.breadthFirst
  have valid' : g'.validate = .ok () := forM_eq_ok (same.valid (forM_ok valid))
  exact compile_of_passes valid' resolved' ((Macro.check_moved moved _).trans checked)
    ((EditableTree.extract_moved moved).trans extracted)
    ((moves.document c.editables).trans rendered) search.distinct fun id met => by
      obtain ⟨e, declared, -⟩ := search.bound id met
      exact EntityGraph.mem_ids.mpr (EntityGraph.lt_size_of_entity? declared)

/-- A runbook with an endpoint and a task on it. -/
def checking (target : EntityId) : Entity :=
  let web : EntityKey := ⟨.endpoint, "web"⟩
  let hello : TaskNode :=
    .leaf { name := "hello", target := some (.bound target web) } (.exec { text := "ls" })
  { kind := .runbook, name := "Ops"
    references := (∅ : OrderedMap (List Ref)).insert "endpoints" [.named web]
    actions := (∅ : OrderedMap Action).insert "run" { name := "run", kind := .system, tree := [hello] } }

def checkingFirst : EntityGraph :=
  { declared := [⟨{ kind := .endpoint, name := "web" }, 1⟩, ⟨checking 0, 0⟩], root := some 1 }

/-- The same in another order, and an endpoint of the same name that lies deeper. -/
def checkingLast : EntityGraph :=
  { declared :=
      [⟨checking 2, 0⟩, ⟨{ kind := .endpoint, name := "web", description := "old" }, 2⟩,
        ⟨{ kind := .endpoint, name := "web" }, 1⟩]
    root := some 0 }

theorem checkingLast_redeclared :
    Redeclared (fun id => if id = 0 then 2 else 0) checkingFirst checkingLast := by
  have hidden : checkingFirst.Hidden ⟨{ kind := .endpoint, name := "web", description := "old" }, 2⟩ := by
    refine ⟨rfl, fun id e key _ _ _ => ?_⟩
    by_cases same : (⟨.endpoint, "web"⟩ : EntityKey) = key
    · subst same
      exact .inr ⟨0, 1, Ref.meaning?_eq_some.mp (by decide +kernel), ⟨_, rfl, rfl, rfl⟩, by decide⟩
    · exact .inl same
  refine ⟨?_, ?_, rfl, ?_⟩
  · rintro (_ | _ | id) d found
    · cases found; rfl
    · cases found; rfl
    · cases found
  · have places : ∀ a < 2, ∀ b < 2, (if a = 0 then 2 else 0) = (if b = 0 then 2 else 0) → a = b := by
      decide
    exact fun a inside b inside' same => places a inside b inside' same
  · rintro (_ | _ | _ | place) d found
    · exact .inl ⟨1, by decide, rfl⟩
    · cases found; exact .inr hidden
    · exact .inl ⟨0, by decide, rfl⟩
    · cases found

theorem compile_redeclared_checking : ∃ c c', compile checkingFirst {} = .ok c ∧
    Redeclared (fun id => if id = 0 then 2 else 0) checkingFirst checkingLast ∧
    compile checkingLast {} = .ok c' ∧ c'.document = c.document ∧ c'.editables = c.editables ∧
      c'.warnings = c.warnings := by
  have compiles : (compile checkingFirst {}).toOption.any (fun _ => True) = true := by
    decide +kernel
  obtain ⟨c, compiled, -⟩ := ok_of_test compiles
  obtain ⟨c', compiled', agree⟩ := compile_redeclared compiled checkingLast_redeclared
  exact ⟨c, c', compiled, checkingLast_redeclared, compiled', agree⟩

end Blueprint
