import Blueprint.Proofs.Graph.Search

/-!
# Why a graph does not resolve

An entity whose references cannot be bound refuses with the fault of the first of them.
`resolveGraph_error` says that the search of a graph only ends without a result at such an entity,
once everything before it is bound.
-/

namespace Blueprint

variable {g : EntityGraph} {id : EntityId} {e : Entity} {n : TaskNode} {fault : CompileError}

theorem Ref.resolve_error {r : Ref} {source : String} (h : r.resolve g source = .error fault) :
    fault = .unresolved source r.kind.name r.key.name ∨
      ∃ count depth, fault = .ambiguous source r.kind.name r.key.name count depth := by
  unfold resolve at h
  dsimp only at h
  split at h
  · split at h
    · cases h
    · exact .inl (Except.error.inj h).symm
  · split at h
    · exact .inl (Except.error.inj h).symm
    · split at h
      · cases h
      · exact .inr ⟨_, _, (Except.error.inj h).symm⟩

namespace Entity

/-- Why a task of this entity cannot be bound. -/
inductive TaskRefused (e : Entity) (g : EntityGraph) (id : EntityId) (scope : String) (n : TaskNode) :
    CompileError → Prop where
  | dangling {r : Ref} {fault : CompileError} (own : n.target = some r)
      (fails : r.resolve g e.key.text = .error fault) : TaskRefused e g id scope n fault
  | needsTarget (own : n.target = none) (needs : n.needsTarget = true)
      (default : e.kind.schema.defaultTarget = .none) :
      TaskRefused e g id scope n (.structural scope (.needsTarget n.name))
  | noDefault {slot : String} (own : n.target = none) (needs : n.needsTarget = true)
      (default : e.kind.schema.defaultTarget = .slot slot)
      (empty : ((e.boundSlots g).get? slot).getD [] = []) :
      TaskRefused e g id scope n (.structural scope (.noDefaultTarget n.name slot))
  | wrongTarget {t : EntityId} {e' : Entity} {k : EntityKind} (runs : e.RunsOn g id n t)
      (found : g.entity? t = some e') (wants : n.targetKind? = some k) (other : e'.kind ≠ k) :
      TaskRefused e g id scope n (.structural scope (.wrongTarget n.name k e'.kind))

/-- Why this entity cannot be bound: tasks come last, when all required slots are filled. -/
inductive Refused (e : Entity) (g : EntityGraph) (id : EntityId) : CompileError → Prop where
  | slot {entry : String × List Ref} {r : Ref} {fault : CompileError}
      (declares : entry ∈ e.references.entries) (listed : r ∈ entry.2)
      (fails : r.resolve g e.key.text = .error fault) : Refused e g id fault
  | required {s : SlotSpec} (known : s ∈ e.kind.schema.slots) (required : s.required = true)
      (empty : ((e.boundSlots g).get? s.name).getD [] = []) :
      Refused e g id (.unresolved e.key.text s.target.name ("<" ++ s.name ++ ">"))
  | task {entry : String × Action} {n : TaskNode} {fault : CompileError}
      (filled : ∀ s ∈ e.kind.schema.slots, s.required = true →
        ((e.boundSlots g).get? s.name).getD [] ≠ [])
      (declares : entry ∈ e.actions.entries) (node : n ∈ entry.2.tree.allNodes)
      (refused : e.TaskRefused g id (e.actionScope entry.1) n fault) : Refused e g id fault

theorem defaultTarget_error {slots : OrderedMap (List EntityId)} {task : String} {fault : TaskFault}
    (h : e.defaultTarget id slots task = .error fault) :
    (e.kind.schema.defaultTarget = .none ∧ fault = .needsTarget task) ∨
      ∃ slot, e.kind.schema.defaultTarget = .slot slot ∧ (slots.get? slot).getD [] = [] ∧
        fault = .noDefaultTarget task slot := by
  unfold defaultTarget at h
  split at h
  · cases h
  · rename_i slot default
    split at h
    · cases h
    · rename_i none
      exact .inr ⟨slot, default, List.head?_eq_none_iff.mp none, (Except.error.inj h).symm⟩
  · rename_i default
    exact .inl ⟨default, (Except.error.inj h).symm⟩

theorem bindTask_error {scope : String} (h : e.bindTask g id (e.boundSlots g) scope n = .error fault) :
    e.TaskRefused g id scope n fault := by
  unfold bindTask at h
  split at h
  · rename_i r own
    exact .dangling own (map_error h)
  · rename_i own
    split at h
    · rename_i needs
      obtain ⟨cause, fails, rfl⟩ := mapError_error h
      rcases defaultTarget_error (map_error fails) with ⟨default, rfl⟩ | ⟨slot, default, empty, rfl⟩
      · exact .needsTarget own needs default
      · exact .noDefault own needs default empty
    · cases h

theorem bindStep_error (found : g.entity? id = some e)
    (means : ∀ entry ∈ e.references.entries, ∀ r ∈ entry.2, ∃ t, r.Means g t) {name : String}
    (h : e.bindStep g id (e.boundSlots g) name n = .error fault) :
    e.TaskRefused g id (e.actionScope name) n fault := by
  rcases bind_error h with fails | ⟨target, bound, h⟩
  · exact bindTask_error fails
  · cases target with
    | none => cases h
    | some t =>
      have runs : e.RunsOn g id n t := taskTarget?_eq_some.mp (bindTask_ok means bound).1.symm
      obtain ⟨e', declared⟩ := runs.entity? found
      rcases bind_error h with fails | ⟨_, -, h⟩
      · unfold checkTarget at fails
        rw [EntityGraph.entity_ok.mpr declared, ok_bind] at fails
        dsimp only at fails
        split at fails
        · rename_i k wants
          split at fails
          · cases fails
          · rename_i other
            exact Except.error.inj fails ▸ .wrongTarget runs declared wants other
        · cases fails
      · cases h

/-- An entity that cannot be bound has a reason. -/
theorem bindReferences_error (found : g.entity? id = some e)
    (h : e.bindReferences g id = .error fault) : e.Refused g id fault := by
  rcases bind_error h with fails | ⟨slots, bound, h⟩
  · obtain ⟨_, entry, declares, fails⟩ := foldlM_error fails
    rcases bind_error fails with fails | ⟨_, -, fails⟩
    · obtain ⟨r, listed, fails⟩ := mapM_error fails
      exact .slot declares listed fails
    · cases fails
  · obtain ⟨means, rfl⟩ := bindSlots_ok bound
    rcases bind_error h with fails | ⟨_, checked, h⟩
    · unfold checkRequired at fails
      split at fails
      · rename_i s missing
        have empty := List.find?_some missing
        simp only [Bool.and_eq_true, List.isEmpty_iff] at empty
        exact Except.error.inj fails ▸
          .required (List.mem_of_find?_eq_some missing) empty.1 empty.2
      · cases fails
    · rcases bind_error h with fails | ⟨_, -, h⟩
      · obtain ⟨⟨name, a⟩, declares, fails⟩ := mapM_error fails
        dsimp only at fails
        rw [bindAction_eq_bindStep] at fails
        rcases bind_error fails with fails | ⟨_, -, fails⟩
        · obtain ⟨n, node, fails⟩ := mapM_error fails
          exact .task (checkRequired_ok_iff.mp checked) declares node
            (bindStep_error found means fails)
        · cases fails
      · cases h

end Entity

/-! ### Searches that end early -/

open ResolvedGraph

theorem foldlM_visit_error {root : EntityId} {k : Nat}
    (h : (List.range k).foldlM visit { graph := g, root, reachable := [root] } = .error fault) :
    ∃ n r id, Visited g root n r ∧ r.reachable[n]? = some id ∧ r.visit n = .error fault := by
  induction k with
  | zero => cases h
  | succ k ih =>
    rw [List.range_succ, List.foldlM_append] at h
    rcases bind_error h with earlier | ⟨r, before, h⟩
    · exact ih earlier
    · obtain ⟨n, le, walked, ended⟩ := foldlM_visit_iff.mp before
      have fails : r.visit k = .error fault := by
        rcases bind_error h with fails | ⟨_, -, h⟩
        · exact fails
        · cases h
      cases here : r.reachable[k]? with
      | none =>
        rw [visit_none here] at fails
        cases fails
      | some id =>
        have more := (List.getElem?_eq_some_iff.mp here).1
        obtain rfl : n = k := by
          rcases Nat.eq_or_lt_of_le le with same | lt
          · exact same
          · have := ended lt
            omega
        exact ⟨n, r, id, walked, here, fails⟩

/-- A graph with a root does not resolve only if an entity that its search visits cannot be bound. -/
theorem resolveGraph_error (rooted : g.Rooted) (h : resolveGraph g = .error fault) :
    (g.root = none ∧ fault = .validation "document" .noRoot) ∨
      ∃ root n r id e, g.root = some root ∧ Visited g root n r ∧ r.reachable[n]? = some id ∧
        g.entity? id = some e ∧ e.Refused g id fault := by
  unfold resolveGraph at h
  split at h
  · rename_i none
    exact .inl ⟨none, (Except.error.inj h).symm⟩
  · rename_i root start
    obtain ⟨n, r, id, visited, here, fails⟩ := foldlM_visit_error h
    have search := visited.searched
    have inside := search.declared (rooted root start) id (List.mem_of_getElem? here)
    obtain ⟨e, found⟩ := EntityGraph.entity?_of_lt inside
    refine .inr ⟨root, n, r, id, _, start, visited, here, found, ?_⟩
    unfold visit at fails
    rw [here, search.graph] at fails
    rcases bind_error fails with missing | ⟨e', declared, fails⟩
    · rw [entity, search.graph, EntityGraph.entity_ok.mpr found] at missing
      cases missing
    · rw [entity, search.graph, EntityGraph.entity_ok.mpr found] at declared
      obtain rfl := Except.ok.inj declared
      rcases bind_error fails with fails | ⟨_, -, fails⟩
      · exact Entity.bindReferences_error found fails
      · cases fails

end Blueprint
