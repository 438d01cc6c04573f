import Blueprint.Graph.Resolve
import Blueprint.Proofs.Except
import Mathlib.Data.List.Nodup

/-!
# What references mean

A bound reference means its own entity, a named one the entity of its key that lies less deep than
all others of that key. `resolve_ok_iff`: resolving finds what a reference means, and finds nothing
where it means nothing.
-/

namespace Blueprint

namespace EntityGraph

/-- An entity of this key is declared in this place, at this depth. -/
def Declares (g : EntityGraph) (key : EntityKey) (id : EntityId) (depth : Nat) : Prop :=
  ∃ d, g.declared[id]? = some d ∧ d.entity.key = key ∧ d.depth = depth

variable {g : EntityGraph} {key : EntityKey} {id : EntityId} {depth : Nat}

theorem entity?_eq_some {e : Entity} :
    g.entity? id = some e ↔ ∃ depth, g.declared[id]? = some ⟨e, depth⟩ := by
  rw [entity?, Option.map_eq_some_iff]
  constructor
  · rintro ⟨d, found, rfl⟩
    exact ⟨d.depth, found⟩
  · rintro ⟨depth, found⟩
    exact ⟨_, found, rfl⟩

theorem entity_ok {e : Entity} : g.entity id = .ok e ↔ g.entity? id = some e := by
  rw [entity]
  split <;> rename_i found <;> simp [found]

theorem mem_ids : id ∈ g.ids ↔ id < g.size := List.mem_range

theorem lt_size_of_entity? {e : Entity} (h : g.entity? id = some e) : id < g.size := by
  obtain ⟨depth, found⟩ := entity?_eq_some.mp h
  exact (List.getElem?_eq_some_iff.mp found).1

theorem entity?_of_lt (h : id < g.size) : ∃ e, g.entity? id = some e := by
  have inside : id < g.declared.length := h
  exact ⟨_, entity?_eq_some.mpr ⟨_, List.getElem?_eq_getElem inside⟩⟩

theorem Declares.unique {depth' : Nat} (h : g.Declares key id depth)
    (h' : g.Declares key id depth') : depth = depth' := by
  obtain ⟨d, found, -, rfl⟩ := h
  obtain ⟨d', found', -, rfl⟩ := h'
  rw [Option.some.inj (found.symm.trans found')]

theorem declares_iff :
    (∃ depth, g.Declares key id depth) ↔ ∃ e, g.entity? id = some e ∧ e.key = key := by
  constructor
  · rintro ⟨depth, d, found, same, -⟩
    exact ⟨d.entity, by rw [entity?, found]; rfl, same⟩
  · rintro ⟨e, found, same⟩
    obtain ⟨depth, found⟩ := entity?_eq_some.mp found
    exact ⟨depth, _, found, same, rfl⟩

theorem any_key_iff : ((g.entity? id).any fun e => e.key == key) = true ↔
    ∃ depth, g.Declares key id depth := by
  rw [declares_iff]
  cases g.entity? id <;> simp

theorem mem_candidates : id ∈ g.candidates key ↔ ∃ depth, g.Declares key id depth := by
  rw [candidates_eq, List.mem_filter, any_key_iff, and_iff_right_iff_imp, declares_iff]
  rintro ⟨e, found, -⟩
  exact mem_ids.mpr (lt_size_of_entity? found)

theorem depth?_of_declares (h : g.Declares key id depth) : g.depth? id = some depth := by
  obtain ⟨d, found, -, rfl⟩ := h
  rw [depth?, found]
  rfl

theorem mem_atDepth :
    id ∈ g.atDepth depth (g.candidates key) ↔ g.Declares key id depth := by
  rw [atDepth, List.mem_filter, mem_candidates, beq_iff_eq]
  constructor
  · rintro ⟨⟨depth', declared⟩, at_⟩
    obtain rfl : depth' = depth := Option.some.inj ((depth?_of_declares declared).symm.trans at_)
    exact declared
  · intro declared
    exact ⟨⟨depth, declared⟩, depth?_of_declares declared⟩

theorem nodup_candidates : (g.candidates key).Nodup := by
  rw [candidates_eq]
  exact List.nodup_range.filter _

theorem nodup_atDepth : (g.atDepth depth (g.candidates key)).Nodup := nodup_candidates.filter _

/-- The only entity of a key at a depth. -/
theorem atDepth_eq_singleton (here : g.Declares key id depth)
    (only : ∀ other, g.Declares key other depth → other = id) :
    g.atDepth depth (g.candidates key) = [id] := by
  refine List.perm_singleton.mp ((List.perm_ext_iff_of_nodup nodup_atDepth
    (List.nodup_singleton id)).mpr fun other => ?_)
  rw [mem_atDepth, List.mem_singleton]
  constructor
  · exact only other
  · rintro rfl
    exact here

theorem mem_depths :
    depth ∈ (g.candidates key).filterMap g.depth? ↔ ∃ id, g.Declares key id depth := by
  rw [List.mem_filterMap]
  constructor
  · rintro ⟨id, candidate, at_⟩
    exact ⟨id, mem_atDepth.mp (List.mem_filter.mpr ⟨candidate, by rw [at_, beq_self_eq_true]⟩)⟩
  · rintro ⟨id, declared⟩
    exact ⟨id, mem_candidates.mpr ⟨depth, declared⟩, depth?_of_declares declared⟩

theorem leastDepth?_some (h : g.leastDepth? (g.candidates key) = some depth) :
    (∃ id, g.Declares key id depth) ∧ ∀ id depth', g.Declares key id depth' → depth ≤ depth' := by
  obtain ⟨mem, least⟩ := List.min?_eq_some_iff.mp h
  exact ⟨mem_depths.mp mem, fun id depth' declared => least depth' (mem_depths.mpr ⟨id, declared⟩)⟩

theorem leastDepth?_none (h : g.leastDepth? (g.candidates key) = none) : ¬g.Declares key id depth := by
  intro declared
  have mem := mem_depths.mpr ⟨id, declared⟩
  rw [List.min?_eq_none_iff.mp h] at mem
  cases mem

end EntityGraph

namespace Ref

def Means (g : EntityGraph) (id : EntityId) : Ref → Prop
  | .bound place key => place = id ∧ ∃ depth, g.Declares key id depth
  | .named key => ∃ depth, g.Declares key id depth ∧
      ∀ other depth', g.Declares key other depth' → other = id ∨ depth < depth'

variable {g : EntityGraph} {r : Ref} {id : EntityId}

theorem Means.declares (h : r.Means g id) : ∃ depth, g.Declares r.key id depth := by
  cases r with
  | bound place key => exact h.2
  | named key =>
    obtain ⟨depth, declared, -⟩ := h
    exact ⟨depth, declared⟩

theorem Means.entity? (h : r.Means g id) : ∃ e, g.entity? id = some e ∧ e.key = r.key :=
  EntityGraph.declares_iff.mp h.declares

theorem Means.unique {id' : EntityId} (h : r.Means g id) (h' : r.Means g id') : id = id' := by
  cases r with
  | bound place key => exact h.1.symm.trans h'.1
  | named key =>
    obtain ⟨depth, declared, least⟩ := h
    obtain ⟨depth', declared', least'⟩ := h'
    rcases least id' depth' declared' with same | deeper
    · exact same.symm
    · rcases least' id depth declared with same | deeper'
      · exact same
      · omega

theorem resolve_bound_iff {source : String} {place : EntityId} {key : EntityKey} :
    (Ref.bound place key).resolve g source = .ok id ↔ (Ref.bound place key).Means g id := by
  rw [resolve, Means]
  split
  · rename_i declared
    constructor
    · intro h
      obtain rfl := Except.ok.inj h
      exact ⟨rfl, EntityGraph.any_key_iff.mp declared⟩
    · rintro ⟨rfl, -⟩
      rfl
  · rename_i absent
    constructor
    · intro h
      cases h
    · rintro ⟨rfl, declared⟩
      exact (absent (EntityGraph.any_key_iff.mpr declared)).elim

theorem resolve_named_iff {source : String} {key : EntityKey} :
    (Ref.named key).resolve g source = .ok id ↔ (Ref.named key).Means g id := by
  rw [resolve, Means]
  cases least : g.leastDepth? (g.candidates key) with
  | none =>
    constructor
    · intro h
      cases h
    · rintro ⟨depth, declared, -⟩
      exact (EntityGraph.leastDepth?_none least declared).elim
  | some depth =>
    obtain ⟨⟨nearest, at_⟩, minimal⟩ := EntityGraph.leastDepth?_some least
    dsimp only
    constructor
    · intro h
      split at h
      · rename_i only single
        obtain rfl := Except.ok.inj h
        have here : ∀ other, g.Declares key other depth ↔ other = only := by
          intro other
          rw [← EntityGraph.mem_atDepth, single, List.mem_singleton]
        refine ⟨depth, (here only).mpr rfl, fun other depth' declared => ?_⟩
        rcases Nat.eq_or_lt_of_le (minimal other depth' declared) with rfl | deeper
        · exact Or.inl ((here other).mp declared)
        · exact Or.inr deeper
      · cases h
    · rintro ⟨depth', declared, deeper⟩
      have same : depth = depth' := by
        rcases deeper nearest depth at_ with rfl | lower
        · exact at_.unique declared
        · exact absurd (minimal id depth' declared) (by omega)
      subst same
      rw [EntityGraph.atDepth_eq_singleton declared fun other here =>
        (deeper other depth here).resolve_right (Nat.lt_irrefl depth)]

theorem resolve_ok_iff {source : String} : r.resolve g source = .ok id ↔ r.Means g id := by
  cases r with
  | bound place key => exact resolve_bound_iff
  | named key => exact resolve_named_iff

/-- What a reference means, if it means anything. -/
def meaning? (r : Ref) (g : EntityGraph) : Option EntityId := (r.resolve g "").toOption

theorem meaning?_eq_some : r.meaning? g = some id ↔ r.Means g id := by
  have resolved : r.resolve g "" = .ok id ↔ r.Means g id := resolve_ok_iff
  rw [← resolved, meaning?]
  cases r.resolve g "" <;> simp [Except.toOption]

theorem meaning?_of_resolve {source : String} (h : r.resolve g source = .ok id) :
    r.meaning? g = some id :=
  meaning?_eq_some.mpr (resolve_ok_iff.mp h)

end Ref

end Blueprint
