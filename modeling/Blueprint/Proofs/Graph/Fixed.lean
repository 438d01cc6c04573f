import Blueprint.Proofs.Graph.Redeclared

/-!
# Renamings that change nothing

An entity all of whose references stay as they are is renamed to itself; so every graph declares the
same as itself.
-/

namespace Blueprint

variable {π : EntityId → EntityId}

theorem Ref.rename_id (r : Ref) : r.rename id = r := by cases r <;> rfl

theorem TaskHead.rename_eq_self {h : TaskHead} (fixed : ∀ r ∈ h.target, r.rename π = r) :
    h.rename π = h := by
  obtain ⟨name, description, target, predecessors, retries, timeoutSecs⟩ := h
  have same : target.map (·.rename π) = target := by
    cases target with
    | none => rfl
    | some r => exact congrArg some (fixed r rfl)
  rw [rename, same]

namespace TaskNode

mutual

theorem rename_eq_self : ∀ n : TaskNode,
    (∀ m ∈ n.all, ∀ r ∈ m.target, r.rename π = r) → n.rename π = n
  | leaf h w, fixed => by
    have own : h.rename π = h := TaskHead.rename_eq_self (fixed (leaf h w) List.mem_cons_self)
    rw [rename, own]
  | decision h s success failure, fixed => by
    have own : h.rename π = h :=
      TaskHead.rename_eq_self (fixed (decision h s success failure) List.mem_cons_self)
    rw [rename, own,
      renameAll_eq_self success fun m mem =>
        fixed m (List.mem_cons_of_mem _ (List.mem_append_left _ mem)),
      renameAll_eq_self failure fun m mem =>
        fixed m (List.mem_cons_of_mem _ (List.mem_append_right _ mem))]
  | loop h iterations loopVariable body, fixed => by
    have own : h.rename π = h :=
      TaskHead.rename_eq_self (fixed (loop h iterations loopVariable body) List.mem_cons_self)
    rw [rename, own, renameAll_eq_self body fun m mem => fixed m (List.mem_cons_of_mem _ mem)]

theorem renameAll_eq_self : ∀ ns : List TaskNode,
    (∀ m ∈ allOf ns, ∀ r ∈ m.target, r.rename π = r) → renameAll π ns = ns
  | [], _ => rfl
  | n :: ns, fixed => by
    rw [renameAll, rename_eq_self n fun m mem => fixed m (List.mem_append_left _ mem),
      renameAll_eq_self ns fun m mem => fixed m (List.mem_append_right _ mem)]

end

end TaskNode

theorem OrderedMap.mapValues_eq_self {α : Type} {f : α → α} {m : OrderedMap α}
    (fixed : ∀ v ∈ m.values, f v = v) : m.mapValues f = m := by
  refine OrderedMap.ext ?_
  have each : ∀ e ∈ m.entries, (e.1, f e.2) = e := fun e mem =>
    Prod.ext rfl (fixed e.2 (List.mem_map_of_mem mem))
  exact (List.map_congr_left each).trans (List.map_id _)

theorem Entity.rename_eq_self {e : Entity} (fixed : ∀ r ∈ e.refs, r.rename π = r) :
    e.rename π = e := by
  have slots : e.references.mapValues (·.map (·.rename π)) = e.references := by
    refine OrderedMap.mapValues_eq_self fun refs listed => ?_
    have each : ∀ r ∈ refs, r.rename π = r := fun r mem =>
      fixed r (List.mem_append_left _ (List.mem_flatten.mpr ⟨refs, listed, mem⟩))
    exact (List.map_congr_left each).trans (List.map_id _)
  have actions : e.actions.mapValues (·.rename π) = e.actions := by
    refine OrderedMap.mapValues_eq_self fun a listed => ?_
    have tree : TaskNode.renameAll π a.tree = a.tree :=
      TaskNode.renameAll_eq_self a.tree fun n mem r own =>
        fixed r (List.mem_append_right _ (List.mem_flatMap.mpr
          ⟨a, listed, List.mem_filterMap.mpr ⟨n, mem, own⟩⟩))
    rw [Action.rename, tree]
  rw [rename, slots, actions]

theorem Redeclared.refl (g : EntityGraph) : Redeclared id g g where
  kept i d found := by
    rw [Entity.rename_eq_self fun r _ => r.rename_id]
    exact found
  apart := Set.injOn_id _
  root := Option.map_id'.symm
  others place d found := .inl ⟨place, (List.getElem?_eq_some_iff.mp found).1, rfl⟩

end Blueprint
