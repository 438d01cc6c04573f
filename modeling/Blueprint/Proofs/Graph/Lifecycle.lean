import Blueprint.Graph.Lifecycle
import Blueprint.Proofs.Except
import Mathlib.Data.List.Nodup

/-!
# Stages that follow each other

Distinct entities that all stand at one stage move to the next one without a fault. A run of single
moves leaves every entity at the last stage it has moved to (`Moves.stage?`).
-/

namespace Blueprint.Lifecycle

variable {l : Lifecycle} {g : EntityGraph} {source target : Stage} {ids : List EntityId}

/-- All of these entities stand at this stage. -/
def At (l : Lifecycle) (stage : Stage) (ids : List EntityId) : Prop :=
  ∀ id ∈ ids, l.stage? id = some stage

theorem At.mono {stage : Stage} {others : List EntityId} (h : l.At stage ids)
    (fewer : ∀ id ∈ others, id ∈ ids) : l.At stage others :=
  fun id mem => h id (fewer id mem)

theorem start_at : (start g).At .declared g.ids := by
  intro id mem
  have inside : id < g.size := List.mem_range.mp mem
  rw [stage?, start, List.getElem?_replicate, if_pos inside]

theorem stage?_set {id : EntityId} (other : EntityId) :
    (⟨l.stages.set id target⟩ : Lifecycle).stage? other =
      if id = other ∧ id < l.stages.length then some target else l.stage? other := by
  rw [stage?, stage?, List.getElem?_set]
  split
  · rename_i same
    subst same
    split <;> simp_all
  · rename_i apart
    rw [if_neg fun both => apart both.1]

theorem advanceAll_ok (next : source.next? = some target) (distinct : ids.Nodup)
    (here : l.At source ids) : ∃ l', l.advanceAll g target ids = (l', .ok ()) ∧
      l'.At target ids ∧ ∀ id, id ∉ ids → l'.stage? id = l.stage? id := by
  induction ids generalizing l with
  | nil => exact ⟨l, rfl, nofun, fun _ _ => rfl⟩
  | cons id ids ih =>
    obtain ⟨apart, distinct⟩ := List.nodup_cons.mp distinct
    obtain ⟨first, rest⟩ := List.forall_mem_cons.mp here
    have inside : id < l.stages.length := (List.getElem?_eq_some_iff.mp first).1
    have others : ∀ other, other ≠ id →
        (⟨l.stages.set id target⟩ : Lifecycle).stage? other = l.stage? other := fun other different => by
      rw [stage?_set, if_neg fun both => different both.1.symm]
    obtain ⟨l', advanced, there, kept⟩ := ih (l := ⟨l.stages.set id target⟩) distinct
      fun other mem => (others other fun same => apart (same ▸ mem)).trans (rest other mem)
    have moved : l.advance g target id = .ok ⟨l.stages.set id target⟩ := by
      rw [advance, first]
      exact if_pos next
    refine ⟨l', ?_, List.forall_mem_cons.mpr ⟨?_, there⟩, fun other absent => ?_⟩
    · rw [advanceAll, moved]
      exact advanced
    · rw [kept id apart, stage?_set, if_pos ⟨rfl, inside⟩]
    · obtain ⟨different, absent⟩ := not_or.mp fun mem => absent (List.mem_cons.mpr mem)
      rw [kept other absent, others other different]

theorem advanced_ok (target : Stage) (next : source.next? = some target) (distinct : ids.Nodup)
    (here : l.At source ids) : ∃ l', l.advanced g target ids = .ok l' ∧ l'.At target ids := by
  obtain ⟨l', advanced, there, -⟩ := advanceAll_ok (g := g) next distinct here
  exact ⟨l', by rw [Lifecycle.advanced, advanced], there⟩

/-! ### Single moves -/

/-- Entities move one after the other, each to the stage that follows its own. -/
inductive Moves (g : EntityGraph) : Lifecycle → List (EntityId × Stage) → Lifecycle → Prop where
  | done (l : Lifecycle) : Moves g l [] l
  | move {l l' l'' : Lifecycle} {id : EntityId} {target : Stage} {moves : List (EntityId × Stage)}
      (first : l.advance g target id = .ok l') (rest : Moves g l' moves l'') :
      Moves g l ((id, target) :: moves) l''

/-- The stages that an entity moves to, in order. -/
def stagesOf (id : EntityId) (moves : List (EntityId × Stage)) : List Stage :=
  (moves.filter fun m => m.1 == id).map (·.2)

variable {l' l'' : Lifecycle} {id : EntityId} {moves moves' : List (EntityId × Stage)}

theorem Moves.append (h : Moves g l moves l') (h' : Moves g l' moves' l'') :
    Moves g l (moves ++ moves') l'' := by
  induction h with
  | done => exact h'
  | move first _ ih => exact .move first (ih h')

theorem advanceAll_moves (h : l.advanceAll g target ids = (l', .ok ())) :
    Moves g l (ids.map fun id => (id, target)) l' := by
  induction ids generalizing l with
  | nil => exact (Prod.mk.inj h).1 ▸ .done l
  | cons id ids ih =>
    rw [advanceAll] at h
    split at h
    · rename_i next first
      exact .move first (ih h)
    · cases (Prod.mk.inj h).2

theorem advanced_moves (h : l.advanced g target ids = .ok l') :
    Moves g l (ids.map fun id => (id, target)) l' := by
  rw [advanced] at h
  split at h
  · rename_i last moved
    exact advanceAll_moves (Except.ok.inj h ▸ moved)
  · cases h

theorem advance_ok (h : l.advance g target id = .ok l') :
    id < l.stages.length ∧ l' = ⟨l.stages.set id target⟩ := by
  rw [advance] at h
  split at h
  · cases h
  · rename_i source here
    split at h
    · exact ⟨(List.getElem?_eq_some_iff.mp here).1, (Except.ok.inj h).symm⟩
    · cases declared : g.entity id <;> rw [declared] at h <;> cases h

theorem Moves.length (h : Moves g l moves l') : l'.stages.length = l.stages.length := by
  induction h with
  | done => rfl
  | move first _ ih =>
    obtain ⟨-, rfl⟩ := advance_ok first
    rw [ih, List.length_set]

/-- After a run an entity stands where its last move has led it, or else where it stood before. -/
theorem Moves.stage? (h : Moves g l moves l') (id : EntityId) :
    l'.stage? id = (stagesOf id moves).getLast?.or (l.stage? id) := by
  induction h with
  | done => rfl
  | @move l _ _ moved target moves first _ ih =>
    obtain ⟨inside, rfl⟩ := advance_ok first
    rw [ih, stage?_set]
    by_cases same : moved = id
    · have here : stagesOf id ((moved, target) :: moves) = target :: stagesOf id moves := by
        simp [stagesOf, same]
      rw [here, if_pos ⟨same, inside⟩]
      cases stagesOf id moves <;> simp [List.getLast?_cons]
    · have elsewhere : stagesOf id ((moved, target) :: moves) = stagesOf id moves := by
        simp [stagesOf, same]
      rw [elsewhere, if_neg fun both => same both.1]

theorem stagesOf_append : stagesOf id (moves ++ moves') = stagesOf id moves ++ stagesOf id moves' := by
  simp [stagesOf]

theorem stagesOf_batch (distinct : ids.Nodup) :
    stagesOf id (ids.map fun id => (id, target)) = if id ∈ ids then [target] else [] := by
  have own : stagesOf id (ids.map fun id => (id, target)) =
      (ids.filter (· == id)).map fun _ => target := by
    rw [stagesOf, List.filter_map, List.map_map]
    rfl
  rw [own]
  split
  · rename_i mem
    rw [List.filter_beq, List.count_eq_one_of_mem distinct mem]
    rfl
  · rename_i absent
    rw [List.filter_beq, List.count_eq_zero_of_not_mem absent]
    rfl

end Blueprint.Lifecycle
