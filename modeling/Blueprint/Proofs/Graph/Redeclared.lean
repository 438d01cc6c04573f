import Blueprint.Proofs.Graph.Rename
import Blueprint.Proofs.Graph.Search
import Mathlib.Data.List.Find
import Mathlib.Data.Set.Function

/-!
# Declaring the same again

A graph may declare its entities in another order, and others that no reference from its root can
mean. `resolveGraph_redeclared`: it resolves to the same, up to the places.
-/

namespace Blueprint

open Relation (ReflTransGen)

/-- The references of an entity, in its slots and in its tasks. -/
def Entity.refs (e : Entity) : List Ref :=
  e.references.values.flatten ++
    e.actions.values.flatMap fun a => a.tree.allNodes.filterMap TaskNode.target

namespace EntityGraph

/-- The root leads to this entity. -/
def Reaches (g : EntityGraph) (id : EntityId) : Prop :=
  ∃ root, g.root = some root ∧ ReflTransGen g.Refers root id

/-- A valid declaration that is none of those that named references from the root look for: its key
is another one, or what they mean lies less deep. -/
structure Hidden (g : EntityGraph) (d : Declared) : Prop where
  valid : d.entity.validate = .ok ()
  hidden : ∀ id e key, g.Reaches id → g.entity? id = some e → Ref.named key ∈ e.refs →
    d.entity.key ≠ key ∨
      ∃ t depth, (Ref.named key).Means g t ∧ g.Declares key t depth ∧ depth < d.depth

end EntityGraph

/-- The entities of one graph, declared at their depths in other places of another one; what else
that one declares is hidden. -/
structure Redeclared (π : EntityId → EntityId) (g g' : EntityGraph) : Prop where
  kept : ∀ id d, g.declared[id]? = some d → g'.declared[π id]? = some ⟨d.entity.rename π, d.depth⟩
  apart : Set.InjOn π {id | id < g.size}
  root : g'.root = g.root.map π
  others : ∀ place d, g'.declared[place]? = some d → (∃ id < g.size, π id = place) ∨ g.Hidden d

def Binding.rename (π : EntityId → EntityId) (b : Binding) : Binding :=
  ⟨b.slots.mapValues (·.map π), b.targets.map fun t => { t with target := π t.target }⟩

theorem Binding.neighbours_rename {π : EntityId → EntityId} (b : Binding) :
    (b.rename π).neighbours = b.neighbours.map π := by
  simp [neighbours, rename, OrderedMap.values_mapValues, List.map_flatten, Function.comp_def]

/-- The same graph in other places. -/
def ResolvedGraph.rename (π : EntityId → EntityId) (g' : EntityGraph) (r : ResolvedGraph) :
    ResolvedGraph where
  graph := g'
  root := π r.root
  reachable := r.reachable.map π
  bindings := r.bindings.map fun b => (π b.1, b.2.rename π)

namespace Redeclared

variable {π : EntityId → EntityId} {g g' : EntityGraph} {id t root : EntityId} {e : Entity}
  {key : EntityKey} {depth : Nat}

/-! ### Declarations -/

theorem entity? (h : Redeclared π g g') (found : g.entity? id = some e) :
    g'.entity? (π id) = some (e.rename π) := by
  obtain ⟨depth, found⟩ := EntityGraph.entity?_eq_some.mp found
  exact EntityGraph.entity?_eq_some.mpr ⟨depth, h.kept _ _ found⟩

theorem declares (h : Redeclared π g g') (declared : g.Declares key id depth) :
    g'.Declares key (π id) depth := by
  obtain ⟨d, found, same, at_⟩ := declared
  exact ⟨_, h.kept _ _ found, same, at_⟩

theorem declares_of (h : Redeclared π g g') (inside : id < g.size)
    (declared : g'.Declares key (π id) depth) : g.Declares key id depth := by
  obtain ⟨d', found', same, at_⟩ := declared
  have found : g.declared[id]? = some g.declared[id] := List.getElem?_eq_getElem inside
  have moved := h.kept _ _ found
  rw [found'] at moved
  obtain rfl := Option.some.inj moved
  exact ⟨_, found, same, at_⟩

theorem rooted (h : Redeclared π g g') (rooted : g.Rooted) : g'.Rooted := by
  intro root start
  rw [h.root] at start
  obtain ⟨first, here, rfl⟩ := Option.map_eq_some_iff.mp start
  have found := h.kept _ _ (List.getElem?_eq_getElem (rooted first here))
  exact (List.getElem?_eq_some_iff.mp found).1

theorem valid (h : Redeclared π g g') (valid : ∀ d ∈ g.declared, d.entity.validate = .ok ()) :
    ∀ d ∈ g'.declared, d.entity.validate = .ok () := by
  intro d mem
  obtain ⟨place, found⟩ := List.mem_iff_getElem?.mp mem
  rcases h.others place d found with ⟨id, inside, rfl⟩ | hidden
  · have kept := h.kept _ _ (List.getElem?_eq_getElem inside)
    rw [found] at kept
    rw [Option.some.inj kept, Entity.validate_rename]
    exact valid _ (List.getElem_mem inside)
  · exact hidden.valid

/-! ### References -/

section Reached

variable (h : Redeclared π g g') (reached : g.Reaches id) (found : g.entity? id = some e)

include h reached found

theorem means {r : Ref} (listed : r ∈ e.refs) (means : r.Means g t) :
    (r.rename π).Means g' (π t) := by
  cases r with
  | bound place key =>
    obtain ⟨rfl, depth, declared⟩ := means
    exact ⟨rfl, depth, h.declares declared⟩
  | named key =>
    have ⟨depth, declared, deeper⟩ := means
    refine ⟨depth, h.declares declared, fun place depth' declared' => ?_⟩
    have ⟨d, declares, same, at_⟩ := declared'
    rcases h.others place d declares with ⟨other, inside, rfl⟩ | hidden
    · rcases deeper other depth' (h.declares_of inside declared') with rfl | deeper
      · exact .inl rfl
      · exact .inr deeper
    · rcases hidden.hidden id e key reached found listed with apart | ⟨t', least, means', there, less⟩
      · exact (apart same).elim
      · obtain rfl := means'.unique means
        obtain rfl := there.unique declared
        exact .inr (at_ ▸ less)

theorem runsOn {a : Action} {n : TaskNode} (declares : a ∈ e.actions.values)
    (node : n ∈ a.tree.allNodes) (runs : e.RunsOn g id n t) :
    (e.rename π).RunsOn g' (π id) (n.rename π) (π t) := by
  cases runs with
  | @own r _ target means =>
    have listed : r ∈ e.refs := List.mem_append_right _ (List.mem_flatMap.mpr
      ⟨a, declares, List.mem_filterMap.mpr ⟨n, node, target⟩⟩)
    exact .own (by rw [TaskNode.target_rename, target]; rfl) (h.means reached found listed means)
  | self target needs default =>
    exact .self (by rw [TaskNode.target_rename, target]; rfl)
      (by rw [TaskNode.needsTarget_rename, needs]) default
  | @slot slot r rs _ target needs default first means =>
    have listed : r ∈ e.refs := List.mem_append_left _ (List.mem_flatten.mpr
      ⟨_, OrderedMap.mem_values_of_get? first, List.mem_cons_self⟩)
    have first' : (e.rename π).references.get? slot = some (r.rename π :: rs.map (·.rename π)) := by
      rw [Entity.rename, OrderedMap.get?_mapValues, first]
      rfl
    exact .slot (by rw [TaskNode.target_rename, target]; rfl)
      (by rw [TaskNode.needsTarget_rename, needs]) default first'
      (h.means reached found listed means)

variable (binds : e.Binds g id)

include binds

theorem taskTarget? {a : Action} {n : TaskNode} (declares : a ∈ e.actions.values)
    (node : n ∈ a.tree.allNodes) :
    (e.rename π).taskTarget? g' (π id) (n.rename π) = (e.taskTarget? g id n).map π := by
  obtain ⟨entry, mem, rfl⟩ := List.mem_map.mp declares
  cases on : e.taskTarget? g id n with
  | some t =>
    exact Entity.taskTarget?_eq_some.mpr
      (h.runsOn reached found declares node (Entity.taskTarget?_eq_some.mp on))
  | none =>
    have idle : ¬(n.target.isSome = true ∨ n.needsTarget = true) := by
      intro wants
      obtain ⟨t, runs⟩ := (binds.tasks entry mem n node).runs wants
      rw [Entity.taskTarget?_eq_some.mpr runs] at on
      cases on
    obtain ⟨target, needs⟩ := not_or.mp idle
    have target : n.target = none := by simpa using target
    rw [Entity.taskTarget?, TaskNode.target_rename, target, TaskNode.needsTarget_rename]
    exact if_neg needs

theorem boundSlots : (e.rename π).boundSlots g' = (e.boundSlots g).mapValues (·.map π) := by
  refine OrderedMap.ext ?_
  simp only [Entity.boundSlots, Entity.rename, OrderedMap.mapValues, List.map_map]
  refine List.map_congr_left fun entry mem => ?_
  refine Prod.ext rfl ?_
  have meant : ∀ r ∈ entry.2, ∃ t, r.meaning? g = some t ∧ (r.rename π).meaning? g' = some (π t) := by
    intro r listed
    obtain ⟨t, means⟩ := binds.slots entry mem r listed
    have inside : r ∈ e.refs := List.mem_append_left _ (List.mem_flatten.mpr
      ⟨entry.2, List.mem_map_of_mem mem, listed⟩)
    exact ⟨t, Ref.meaning?_eq_some.mpr means,
      Ref.meaning?_eq_some.mpr (h.means reached found inside means)⟩
  change (entry.2.map (·.rename π)).filterMap (·.meaning? g') =
    (entry.2.filterMap (·.meaning? g)).map π
  rw [List.filterMap_map, List.map_filterMap]
  refine List.filterMap_congr fun r listed => ?_
  obtain ⟨t, here, there⟩ := meant r listed
  rw [here]
  exact there

theorem boundTargets : (e.rename π).boundTargets g' (π id) =
    (e.boundTargets g id).map fun t => { t with target := π t.target } := by
  have each : ∀ entry ∈ e.actions.entries,
      (entry.2.rename π).tree.allNodes.filterMap (fun n =>
        ((e.rename π).taskTarget? g' (π id) n).map fun t => (⟨entry.1, n.name, t⟩ : TaskTarget)) =
      (entry.2.tree.allNodes.filterMap fun n =>
        (e.taskTarget? g id n).map fun t => (⟨entry.1, n.name, t⟩ : TaskTarget)).map
          fun t => { t with target := π t.target } := by
    intro entry mem
    rw [Action.rename, TaskTree.allNodes_renameAll, List.filterMap_map, List.map_filterMap]
    refine List.filterMap_congr fun n node => ?_
    have same := h.taskTarget? reached found binds (List.mem_map_of_mem mem) node
    simp [same, Function.comp_def]
  rw [Entity.boundTargets, Entity.boundTargets, List.map_flatMap]
  refine (List.flatMap_map _ _ _).trans (List.flatMap_congr fun entry mem => each entry mem)

theorem taskBinds {a : Action} {n : TaskNode} (declares : a ∈ e.actions.values)
    (node : n ∈ a.tree.allNodes) : (e.rename π).TaskBinds g' (π id) (n.rename π) := by
  have ⟨entry, mem, same⟩ := List.mem_map.mp declares
  have task := binds.tasks entry mem n (same ▸ node)
  refine ⟨fun wants => ?_, fun place runs k wants => ?_⟩
  · rw [TaskNode.target_rename, Option.isSome_map, TaskNode.needsTarget_rename] at wants
    obtain ⟨t, runs⟩ := task.runs wants
    exact ⟨π t, h.runsOn reached found declares node runs⟩
  · have target := Entity.taskTarget?_eq_some.mpr runs
    rw [h.taskTarget? reached found binds declares node] at target
    obtain ⟨t, on, rfl⟩ := Option.map_eq_some_iff.mp target
    rw [TaskNode.targetKind?_rename] at wants
    obtain ⟨e', declared, kind⟩ := task.kind t (Entity.taskTarget?_eq_some.mp on) k wants
    exact ⟨_, h.entity? declared, kind⟩

theorem binds_rename : (e.rename π).Binds g' (π id) where
  slots := by
    intro moved mem r' listed'
    obtain ⟨entry, inside, rfl⟩ := List.mem_map.mp mem
    obtain ⟨r, listed, rfl⟩ := List.mem_map.mp listed'
    obtain ⟨t, means⟩ := binds.slots entry inside r listed
    have known : r ∈ e.refs := List.mem_append_left _ (List.mem_flatten.mpr
      ⟨entry.2, List.mem_map_of_mem inside, listed⟩)
    exact ⟨π t, h.means reached found known means⟩
  required := by
    intro s mem required
    have bound := binds.required s mem required
    rw [h.boundSlots reached found binds, OrderedMap.get?_mapValues]
    cases listed : (e.boundSlots g).get? s.name <;> simp_all
  tasks := by
    intro moved mem n' node'
    obtain ⟨entry, inside, rfl⟩ := List.mem_map.mp mem
    have declares : entry.2 ∈ e.actions.values := List.mem_map_of_mem inside
    dsimp only [Action.rename] at node'
    rw [TaskTree.allNodes_renameAll] at node'
    obtain ⟨n, node, rfl⟩ := List.mem_map.mp node'
    exact h.taskBinds reached found binds declares node

theorem neighbours_rename :
    g'.neighbours (π id) = (g.neighbours id).map π := by
  rw [EntityGraph.neighbours_eq found, EntityGraph.neighbours_eq (h.entity? found),
    ← Entity.neighbours_bound, ← Entity.neighbours_bound, ← Binding.neighbours_rename,
    h.boundSlots reached found binds, h.boundTargets reached found binds]
  rfl

end Reached

/-! ### The search -/

theorem foldl_meet_rename {ids seen : List EntityId} (apart : Set.InjOn π {x | x ∈ seen ∨ x ∈ ids}) :
    (ids.map π).foldl (fun seen id => if seen.contains id then seen else seen ++ [id]) (seen.map π) =
      (ids.foldl (fun seen id => if seen.contains id then seen else seen ++ [id]) seen).map π := by
  induction ids generalizing seen with
  | nil => rfl
  | cons id ids ih =>
    have known : (seen.map π).contains (π id) = seen.contains id := by
      rw [Bool.eq_iff_iff, List.contains_iff_mem, List.contains_iff_mem, List.mem_map]
      constructor
      · rintro ⟨other, mem, same⟩
        exact apart (.inl mem) (.inr List.mem_cons_self) same ▸ mem
      · intro mem
        exact ⟨id, mem, rfl⟩
    rw [List.map_cons, List.foldl_cons, List.foldl_cons, known]
    split
    · exact ih (apart.mono fun x mem => mem.imp_right (List.mem_cons_of_mem _))
    · rw [← List.map_singleton, ← List.map_append]
      refine ih (apart.mono fun x mem => ?_)
      simpa [or_assoc] using mem

/-- Searching the one graph is searching the other, with the places renamed. -/
theorem visited {n : Nat} {r : ResolvedGraph} (h : Redeclared π g g') (start : g.root = some root)
    (rooted : root < g.size) (visited : ResolvedGraph.Visited g root n r) :
    ResolvedGraph.Visited g' (π root) n (r.rename π g') := by
  induction visited with
  | start => exact .start
  | @step n r r' before more visit ih =>
    have searched := before.searched
    have here := List.getElem?_eq_getElem more
    obtain ⟨e, found, binds, rfl⟩ := (ResolvedGraph.visit_ok_iff searched.graph here).mp visit
    have reached : g.Reaches r.reachable[n] := ⟨root, start, EntityGraph.reaches_iff_hops.mpr
      (searched.reached _ (List.getElem_mem more))⟩
    refine ih.step (by simpa [ResolvedGraph.rename] using more) ?_
    have there : (r.rename π g').reachable[n]? = some (π r.reachable[n]) := by
      simp [ResolvedGraph.rename, here]
    refine (ResolvedGraph.visit_ok_iff (g := g') rfl there).mpr
      ⟨_, h.entity? found, h.binds_rename reached found binds, ?_⟩
    have apart : Set.InjOn π {x | x ∈ r.reachable ∨ x ∈ g.neighbours r.reachable[n]} := by
      refine h.apart.mono fun x met => ?_
      rcases met with met | met
      · exact searched.declared rooted x met
      · obtain ⟨e', declared⟩ := (EntityGraph.mem_neighbours.mp met).declared
        exact EntityGraph.lt_size_of_entity? declared
    have met := foldl_meet_rename apart
    rw [h.boundSlots reached found binds, h.boundTargets reached found binds,
      h.neighbours_rename reached found binds]
    simp only [ResolvedGraph.rename, ResolvedGraph.meet, met, Binding.rename, List.map_append,
      List.map_cons, List.map_nil]

end Redeclared

/-! ### What is resolved -/

namespace ResolvedGraph

/-- The same in other places, as far as the root reaches. -/
structure Moved (π : EntityId → EntityId) (r r' : ResolvedGraph) : Prop where
  root : r'.root = π r.root
  first : r.root ∈ r.reachable
  reachable : r'.reachable = r.reachable.map π
  apart : Set.InjOn π {id | id ∈ r.reachable}
  entity : ∀ id ∈ r.reachable, ∃ e, r.graph.entity? id = some e ∧
    r'.graph.entity? (π id) = some (e.rename π)
  resolved : ∀ id ∈ r.reachable, r'.isResolved (π id) = r.isResolved id
  slot : ∀ id ∈ r.reachable, ∀ name, r'.slot (π id) name = (r.slot id name).map π
  slots : ∀ id name, ∀ t ∈ r.slot id name, t ∈ r.reachable
  target : ∀ id ∈ r.reachable, ∀ action task,
    r'.target? (π id) action task = (r.target? id action task).map π
  targets : ∀ id action task t, r.target? id action task = some t → t ∈ r.reachable

variable {π : EntityId → EntityId} {g g' : EntityGraph} {r : ResolvedGraph} {id : EntityId}

theorem binding?_rename (apart : Set.InjOn π {x | x = id ∨ x ∈ r.bindings.map (·.1)}) :
    (r.rename π g').binding? (π id) = (r.binding? id).map (·.rename π) := by
  have same : ∀ b ∈ r.bindings, (π b.1 == π id) = (b.1 == id) := by
    intro b mem
    rw [Bool.eq_iff_iff, beq_iff_eq, beq_iff_eq]
    exact ⟨fun same => apart (.inr (List.mem_map_of_mem mem)) (.inl rfl) same, congrArg π⟩
  have find := List.find?_congr same
  simp only [binding?, rename, List.find?_map, Function.comp_def, find, Option.map_map]

theorem slot_rename {b : Option Binding} (bound : r.binding? id = b)
    (moved : (r.rename π g').binding? (π id) = b.map (·.rename π)) (name : String) :
    (r.rename π g').slot (π id) name = (r.slot id name).map π := by
  rw [slot, slot, moved, bound]
  cases b with
  | none => rfl
  | some b =>
    simp only [Option.map_some, Binding.slot, Binding.rename, OrderedMap.get?_mapValues]
    cases b.slots.get? name <;> rfl

theorem target?_rename {b : Option Binding} (bound : r.binding? id = b)
    (moved : (r.rename π g').binding? (π id) = b.map (·.rename π)) (action task : String) :
    (r.rename π g').target? (π id) action task = (r.target? id action task).map π := by
  rw [target?, target?, moved, bound]
  cases b with
  | none => rfl
  | some b =>
    simp only [Option.map_some, Option.bind_some, Binding.target?, Binding.rename, List.find?_map,
      Option.map_map]
    rfl

end ResolvedGraph

/-- A graph that declares the same resolves to the same. -/
theorem resolveGraph_redeclared {π : EntityId → EntityId} {g g' : EntityGraph} {r : ResolvedGraph}
    (h : Redeclared π g g') (rooted : g.Rooted) (resolved : resolveGraph g = .ok r) :
    ∃ r', resolveGraph g' = .ok r' ∧ r.Moved π r' := by
  obtain ⟨root, start, visited⟩ := (resolveGraph_ok_iff rooted).mp resolved
  have inside := rooted root start
  have search := visited.breadthFirst
  obtain ⟨_, _, walk⟩ := resolve_walk resolved
  have declared := visited.searched.declared inside
  have moved := h.visited start inside visited
  refine ⟨r.rename π g', (resolveGraph_ok_iff (h.rooted rooted)).mpr ⟨π root, ?_, ?_⟩, ?_⟩
  · rw [h.root, start]
    rfl
  · simpa [ResolvedGraph.rename] using moved
  · have reached := search.start ▸ List.mem_of_mem_head? search.first
    have bound : ∀ id ∈ r.reachable,
        (r.rename π g').binding? (π id) = (r.binding? id).map (·.rename π) := by
      intro id met
      refine ResolvedGraph.binding?_rename (h.apart.mono fun x known => declared x ?_)
      rcases known with rfl | known
      · exact met
      · obtain ⟨b, mem, rfl⟩ := List.mem_map.mp known
        have listed := visited.searched.bound
        rw [List.take_length] at listed
        obtain ⟨id, met, same, -⟩ := mem_forall₂ listed.flip b mem
        exact same ▸ met
    exact
      { root := rfl
        first := reached
        reachable := rfl
        apart := h.apart.mono declared
        entity := fun id met => by
          obtain ⟨e, found, -⟩ := search.bound id met
          exact ⟨e, search.graph ▸ found, h.entity? found⟩
        resolved := fun id met => by
          rw [ResolvedGraph.isResolved, ResolvedGraph.isResolved, bound id met, Option.isSome_map]
        slot := fun id met => ResolvedGraph.slot_rename rfl (bound id met)
        slots := fun id name t listed => walk.closed id t (ResolvedGraph.refers_of_slot listed)
        target := fun id met => ResolvedGraph.target?_rename rfl (bound id met)
        targets := fun id action task t found =>
          walk.closed id t (ResolvedGraph.refers_of_target? found) }

end Blueprint
