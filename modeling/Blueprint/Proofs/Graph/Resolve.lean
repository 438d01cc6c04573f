import Blueprint.Graph.Resolve
import Blueprint.Proofs.Data.Maps
import Mathlib.Logic.Relation

/-!
# What a graph resolves to

The reachable entities of a resolved graph are those that the bindings lead to from the root, each
once. `visit_keeps` is the step and `resolve_walk` the whole walk.
-/

namespace Blueprint

open Relation (ReflTransGen)

namespace OrderedMap

theorem mem_values_of_get? {α : Type} {m : OrderedMap α} {k : String} {v : α}
    (h : m.get? k = some v) : v ∈ m.values :=
  List.mem_map.mpr ⟨(k, v), Entries.mem_of_get? h, rfl⟩

end OrderedMap

namespace ResolvedGraph

/-- One entity refers to another, in a slot or as the target of a task. -/
def Refers (r : ResolvedGraph) (a b : EntityId) : Prop :=
  ∃ binding, (a, binding) ∈ r.bindings ∧ b ∈ binding.neighbours

/-- A walk over a graph that has bound some of the entities it reached. -/
structure Walk (g : EntityGraph) (root : EntityId) (r : ResolvedGraph) : Prop where
  graph : r.graph = g
  start : r.root = root
  first : r.reachable.head? = some root
  distinct : r.reachable.Nodup
  closed : ∀ a b, r.Refers a b → b ∈ r.reachable
  reached : ∀ id ∈ r.reachable, ReflTransGen r.Refers root id

/-! ### Meeting -/

theorem foldl_meet (ids seen : List EntityId) : ∃ fresh : List EntityId,
    ids.foldl (fun seen id => if seen.contains id then seen else seen ++ [id]) seen = seen ++ fresh ∧
      (seen.Nodup → (seen ++ fresh).Nodup) ∧ (∀ id ∈ fresh, id ∈ ids) ∧
      ∀ id ∈ ids, id ∈ seen ++ fresh := by
  induction ids generalizing seen with
  | nil => exact ⟨[], by simp⟩
  | cons id ids ih =>
    rw [List.foldl_cons]
    split
    · rename_i known
      obtain ⟨fresh, same, distinct, sub, all⟩ := ih seen
      refine ⟨fresh, same, distinct, fun x mem => List.mem_cons_of_mem _ (sub x mem), ?_⟩
      exact List.forall_mem_cons.mpr ⟨List.mem_append_left _ (by simpa using known), all⟩
    · rename_i unknown
      obtain ⟨fresh, same, distinct, sub, all⟩ := ih (seen ++ [id])
      have shift : seen ++ [id] ++ fresh = seen ++ id :: fresh := by simp
      rw [shift] at same distinct all
      refine ⟨id :: fresh, same, fun nodup => distinct ?_, ?_, ?_⟩
      · have new : id ∉ seen := by simpa using unknown
        exact List.nodup_append.mpr ⟨nodup, by simp, fun x mem y single same =>
          new (List.mem_singleton.mp single ▸ same ▸ mem)⟩
      · exact List.forall_mem_cons.mpr
          ⟨List.mem_cons_self, fun x mem => List.mem_cons_of_mem _ (sub x mem)⟩
      · exact List.forall_mem_cons.mpr ⟨by simp, all⟩

variable {g : EntityGraph} {root : EntityId} {r r' : ResolvedGraph}

theorem Walk.bind (h : Walk g root r) {id : EntityId} (known : id ∈ r.reachable) (b : Binding) :
    Walk g root ({ r with bindings := r.bindings ++ [(id, b)] }.meet b.neighbours) := by
  obtain ⟨fresh, same, distinct, sub, all⟩ := foldl_meet b.neighbours r.reachable
  have reachable : ({ r with bindings := r.bindings ++ [(id, b)] }.meet b.neighbours).reachable =
      r.reachable ++ fresh := same
  have refers : ∀ x y, ({ r with bindings := r.bindings ++ [(id, b)] }.meet b.neighbours).Refers x y ↔
      r.Refers x y ∨ x = id ∧ y ∈ b.neighbours := by
    intro x y
    simp only [Refers, meet, List.mem_append, List.mem_singleton, Prod.mk.injEq]
    constructor
    · rintro ⟨binding, old | ⟨rfl, rfl⟩, next⟩
      · exact Or.inl ⟨binding, old, next⟩
      · exact Or.inr ⟨rfl, next⟩
    · rintro (⟨binding, old, next⟩ | ⟨rfl, next⟩)
      · exact ⟨binding, Or.inl old, next⟩
      · exact ⟨b, Or.inr ⟨rfl, rfl⟩, next⟩
  -- The binding only adds references, so whatever was reached still is.
  have old : ∀ x ∈ r.reachable, ReflTransGen
      ({ r with bindings := r.bindings ++ [(id, b)] }.meet b.neighbours).Refers root x :=
    fun x mem => ReflTransGen.mono (fun x y next => (refers x y).mpr (Or.inl next)) root x
      (h.reached x mem)
  refine ⟨h.graph, h.start, ?_, reachable ▸ distinct h.distinct, fun x y step => ?_, fun x mem => ?_⟩
  · rw [reachable, List.head?_append, h.first]
    rfl
  · rw [reachable]
    rcases (refers x y).mp step with old | ⟨-, new⟩
    · exact List.mem_append_left _ (h.closed x y old)
    · exact all y new
  · rw [reachable] at mem
    rcases List.mem_append.mp mem with mem | mem
    · exact old x mem
    · exact (old id known).tail ((refers id x).mpr (Or.inr ⟨rfl, sub x mem⟩))

theorem visit_keeps (h : Walk g root r) {i : Nat} (visited : r.visit i = .ok r') :
    Walk g root r' := by
  unfold visit at visited
  split at visited
  · exact Except.ok.inj visited ▸ h
  · rename_i id found
    obtain ⟨e, _, visited⟩ := bind_ok visited
    obtain ⟨b, _, visited⟩ := bind_ok visited
    rw [pure_ok visited]
    exact h.bind (List.mem_of_getElem? found) b

end ResolvedGraph

theorem resolve_walk {g : EntityGraph} {r : ResolvedGraph} (h : resolveGraph g = .ok r) :
    ∃ root, g.root = some root ∧ r.Walk g root := by
  unfold resolveGraph at h
  split at h
  · cases h
  · rename_i root rooted
    refine ⟨root, rooted, foldlM_ok (fun s i _ s' walk visited => ResolvedGraph.visit_keeps walk visited)
      ⟨rfl, rfl, rfl, by simp, ?_, ?_⟩ h⟩
    · rintro a b ⟨binding, bound, _⟩
      cases bound
    · intro id mem
      rw [List.mem_singleton.mp mem]

namespace ResolvedGraph

variable {r : ResolvedGraph} {id t : EntityId}

theorem mem_of_binding? {b : Binding} (h : r.binding? id = some b) : (id, b) ∈ r.bindings := by
  obtain ⟨pair, found, rfl⟩ := Option.map_eq_some_iff.mp h
  have same : pair.1 = id := by simpa using List.find?_some found
  exact same ▸ List.mem_of_find?_eq_some found

theorem refers_of_slot {name : String} (h : t ∈ r.slot id name) : r.Refers id t := by
  unfold slot at h
  split at h
  · rename_i b bound
    refine ⟨b, mem_of_binding? bound, List.mem_append_left _ ?_⟩
    rw [Binding.slot] at h
    cases found : b.slots.get? name with
    | none => simp [found] at h
    | some ids =>
      rw [found] at h
      exact List.mem_flatten.mpr ⟨ids, OrderedMap.mem_values_of_get? found, h⟩
  · cases h

theorem refers_of_target? {action task : String} (h : r.target? id action task = some t) :
    r.Refers id t := by
  obtain ⟨b, bound, target⟩ := Option.bind_eq_some_iff.mp h
  obtain ⟨entry, found, rfl⟩ := Option.map_eq_some_iff.mp target
  exact ⟨b, mem_of_binding? bound,
    List.mem_append_right _ (List.mem_map_of_mem (List.mem_of_find?_eq_some found))⟩

end ResolvedGraph

end Blueprint
