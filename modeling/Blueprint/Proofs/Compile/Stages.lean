import Blueprint.Proofs.Compile.Faults
import Blueprint.Proofs.Compile.Redeclared
import Blueprint.Proofs.Graph.Lifecycle

/-!
# The stages of a compile

A compile moves all declared entities, then all reachable ones, batch after batch. No entity ever
stands in the way of its batch, and at the end every reachable entity has passed every stage once.
-/

namespace Blueprint

open Relation (ReflTransGen)
open Lifecycle (Moves stagesOf)

variable {g : EntityGraph} {context : CompileContext} {c : Compiled}

/-- The moves of a compile that reaches these entities. -/
def EntityGraph.moves (g : EntityGraph) (reachable : List EntityId) : List (EntityId × Stage) :=
  g.ids.map (fun id => (id, .variablesBound)) ++
    (g.ids.map (fun id => (id, .referencesUnresolved)) ++
      (reachable.map (fun id => (id, .referencesResolved)) ++
        (reachable.map (fun id => (id, .editablesExtracted)) ++
          reachable.map fun id => (id, .serialized))))

theorem compile_moves (h : compile g context = .ok c) :
    Moves g (.start g) (g.moves c.resolved.reachable) c.lifecycle := by
  obtain ⟨_, -, h⟩ := bind_ok h
  obtain ⟨l₁, first, h⟩ := bind_ok h
  obtain ⟨l₂, second, h⟩ := bind_ok h
  obtain ⟨r, -, h⟩ := bind_ok h
  obtain ⟨l₃, third, h⟩ := bind_ok h
  obtain ⟨_, -, h⟩ := bind_ok h
  obtain ⟨_, -, h⟩ := bind_ok h
  obtain ⟨l₄, fourth, h⟩ := bind_ok h
  obtain ⟨_, -, h⟩ := bind_ok h
  obtain ⟨l₅, last, h⟩ := bind_ok h
  rw [pure_ok h]
  have reached := (Lifecycle.advanced_moves third).append
    ((Lifecycle.advanced_moves fourth).append (Lifecycle.advanced_moves last))
  exact (Lifecycle.advanced_moves first).append ((Lifecycle.advanced_moves second).append reached)

/-- The stages that an entity passes are those of the batches that it is in. -/
theorem EntityGraph.stagesOf_moves {reachable : List EntityId} {id : EntityId}
    (distinct : reachable.Nodup) (declared : id ∈ g.ids) : stagesOf id (g.moves reachable) =
      [.variablesBound, .referencesUnresolved] ++
        if id ∈ reachable then [.referencesResolved, .editablesExtracted, .serialized] else [] := by
  have ids : g.ids.Nodup := List.nodup_range
  simp only [moves, Lifecycle.stagesOf_append, Lifecycle.stagesOf_batch ids,
    Lifecycle.stagesOf_batch distinct, if_pos declared]
  split <;> rfl

theorem compile_guarded (root : g.RootKind) (context : CompileContext) :
    Guarded (compile g context) := by
  have ids : g.ids.Nodup := List.nodup_range
  refine g.guarded_validate.bind fun _ _ => ?_
  obtain ⟨l₁, first, at₁⟩ := Lifecycle.advanced_ok (g := g) .variablesBound rfl ids
    Lifecycle.start_at
  refine (Guarded.of_ok first).bind fun l same => ?_
  obtain rfl := Except.ok.inj (first.symm.trans same)
  obtain ⟨l₂, second, at₂⟩ := Lifecycle.advanced_ok (g := g) .referencesUnresolved rfl ids at₁
  refine (Guarded.of_ok second).bind fun l same => ?_
  obtain rfl := Except.ok.inj (second.symm.trans same)
  refine (guarded_resolveGraph root.rooted).bind fun r resolved => ?_
  obtain ⟨_, -, search⟩ := (resolveGraph_breadthFirst root.rooted).2.2 r resolved
  have closed := ResolvedGraph.closed_of_resolveGraph root.rooted resolved
  have declared : ∀ id ∈ r.reachable, id ∈ g.ids := fun id met => by
    obtain ⟨e, found, -⟩ := search.bound id met
    exact EntityGraph.mem_ids.mpr (EntityGraph.lt_size_of_entity? found)
  obtain ⟨l₃, third, at₃⟩ := Lifecycle.advanced_ok (g := g) .referencesResolved rfl search.distinct
    (at₂.mono declared)
  refine (Guarded.of_ok third).bind fun l same => ?_
  obtain rfl := Except.ok.inj (third.symm.trans same)
  refine (Macro.guarded_check closed _).bind fun _ _ =>
    (EditableTree.guarded_extract closed).bind fun editables _ => ?_
  obtain ⟨l₄, fourth, at₄⟩ := Lifecycle.advanced_ok (g := g) .editablesExtracted rfl search.distinct
    at₃
  refine (Guarded.of_ok fourth).bind fun l same => ?_
  obtain rfl := Except.ok.inj (fourth.symm.trans same)
  obtain ⟨l₅, last, -⟩ := Lifecycle.advanced_ok (g := g) .serialized rfl search.distinct at₄
  exact (Payload.guarded_document (Payload.grounded_of_resolveGraph root resolved context)
    editables).bind fun _ _ => (Guarded.of_ok last).bind fun _ _ => .pure _

/-- What a search has met, and what it has bound, are declared entities. -/
theorem ResolvedGraph.Visited.declared {root : EntityId} {n : Nat} {r : ResolvedGraph}
    (h : Visited g root n r) (rooted : root < g.size) : (∀ id ∈ r.reachable, id < g.size) ∧
      ∀ b ∈ r.bindings, ∀ t ∈ b.2.neighbours, t < g.size := by
  refine ⟨h.searched.declared rooted, fun b mem t bound => ?_⟩
  obtain ⟨id, -, -, e, found, -, same⟩ := mem_forall₂ h.searched.bound.flip b mem
  rw [same, Entity.neighbours_bound] at bound
  rw [← EntityGraph.neighbours_eq found] at bound
  obtain ⟨e', declared⟩ := (EntityGraph.mem_neighbours.mp bound).declared
  exact EntityGraph.lt_size_of_entity? declared

/-- However a graph was declared, compiling it ends in no internal fault, and its search stays
inside the graph. When it succeeds, every entity has moved one stage at a time: the reachable ones
through all of them, the others until their references would be resolved. -/
theorem compile_stages (calls : List EntityGraph.Call) (context : CompileContext) :
    let g := EntityGraph.ofCalls calls
    (∀ fault, compile g context = .error fault → fault.isInternal = false) ∧
      (∀ root, g.root = some root → ∀ n r, ResolvedGraph.Visited g root n r →
        (∀ id ∈ r.reachable, id < g.size) ∧ ∀ b ∈ r.bindings, ∀ t ∈ b.2.neighbours, t < g.size) ∧
      ∀ c, compile g context = .ok c → ∃ root moves, g.root = some root ∧
        Moves g (.start g) moves c.lifecycle ∧ c.lifecycle.stages.length = g.size ∧
        ∀ id < g.size,
          (ReflTransGen g.Refers root id → id ∈ c.resolved.reachable ∧
            c.lifecycle.stage? id = some .serialized ∧
            stagesOf id moves = [.variablesBound, .referencesUnresolved, .referencesResolved,
              .editablesExtracted, .serialized]) ∧
          (¬ReflTransGen g.Refers root id → id ∉ c.resolved.reachable ∧
            c.lifecycle.stage? id = some .referencesUnresolved ∧
            stagesOf id moves = [.variablesBound, .referencesUnresolved]) := by
  intro g
  have rootKind : g.RootKind := EntityGraph.rootKind_ofCalls calls
  refine ⟨compile_guarded rootKind context, fun root start n r visited =>
    visited.declared (rootKind.rooted root start), fun c compiled => ?_⟩
  obtain ⟨-, resolved, -⟩ := compile_passes compiled
  obtain ⟨root, start, search⟩ := (resolveGraph_breadthFirst rootKind.rooted).2.2 _ resolved
  have moved := compile_moves compiled
  refine ⟨root, g.moves c.resolved.reachable, start, moved, ?_, fun id inside => ?_⟩
  · rw [moved.length]
    exact List.length_replicate
  · have passed := g.stagesOf_moves search.distinct (EntityGraph.mem_ids.mpr inside)
    have stage := moved.stage? id
    rw [passed] at stage
    refine ⟨fun reaches => ?_, fun apart => ?_⟩
    · have met := (search.exact id).mpr reaches
      rw [if_pos met] at passed stage
      exact ⟨met, stage, passed⟩
    · have unmet : id ∉ c.resolved.reachable := fun met => apart ((search.exact id).mp met)
      rw [if_neg unmet] at passed stage
      exact ⟨unmet, stage, passed⟩

/-- Two calls are refused here, and the one entity that is not reached refers outside the graph. -/
def checkingCalls : List EntityGraph.Call :=
  let outside : OrderedMap (List Ref) :=
    (∅ : OrderedMap (List Ref)).insert "credential" [.bound 7 ⟨.credential, "key"⟩]
  [.declareRoot { kind := .service, name := "web" }, .declare { kind := .endpoint, name := "web" },
    .declareAt { kind := .endpoint, name := "old", references := outside } 2,
    .declareRoot (checking 0), .declareRoot (checking 0)]

theorem compile_stages_checking :
    let g := EntityGraph.ofCalls checkingCalls
    ∃ c root moves, compile g {} = .ok c ∧ g.root = some root ∧
      Moves g (.start g) moves c.lifecycle ∧ ReflTransGen g.Refers root 0 ∧
      c.lifecycle.stage? 0 = some .serialized ∧
      stagesOf 0 moves = [.variablesBound, .referencesUnresolved, .referencesResolved,
        .editablesExtracted, .serialized] ∧
      ¬ReflTransGen g.Refers root 1 ∧ c.lifecycle.stage? 1 = some .referencesUnresolved ∧
      stagesOf 1 moves = [.variablesBound, .referencesUnresolved] := by
  intro g
  obtain ⟨c, compiled, reached⟩ := ok_of_test (x := compile g {})
    (P := fun c => c.resolved.reachable = [2, 0]) (by decide +kernel)
  obtain ⟨root, moves, start, moved, -, passed⟩ := (compile_stages checkingCalls {}).2.2 c compiled
  have reaches : ReflTransGen g.Refers root 0 := by
    by_contra apart
    exact ((passed 0 (by decide)).2 apart).1 (by rw [reached]; decide)
  have apart : ¬ReflTransGen g.Refers root 1 := fun reaches =>
    absurd ((passed 1 (by decide)).1 reaches).1 (by rw [reached]; decide)
  obtain ⟨-, last, stages⟩ := (passed 0 (by decide)).1 reaches
  obtain ⟨-, last', stages'⟩ := (passed 1 (by decide)).2 apart
  exact ⟨c, root, moves, compiled, start, moved, reaches, last, stages, apart, last', stages'⟩

end Blueprint
