import Blueprint.Proofs.Builder.Invariant
import Blueprint.Proofs.Outline.Level
import Blueprint.Proofs.Outline.Nested

/-!
# The order of a finished tree

`finish_faithful`: the calls of a builder write one outline, and every level of the finished tree
waits for exactly what its scopes put before. `built_level` is what is left of it when calls may be
refused.
-/

namespace Blueprint

open Outline (LevelOf Faithful scriptOf)

theorem built_layout {t : TaskTree} {declared : List String} (h : t.Built declared) :
    ∃ body, t = Outline.layoutSerial [] body ∧ (Outline.allNamesOf body).Nodup ∧
      ((scriptOf body).filterMap Call.declares?).Sublist declared := by
  obtain ⟨id, action, calls, finished, rfl⟩ := h
  obtain ⟨os, inv, wrote⟩ := TaskBuilder.run_inv (TaskBuilder.new_inv id action) calls
  obtain ⟨body, rfl, layout, distinct⟩ := TaskBuilder.finish_layout inv finished
  refine ⟨body, layout, distinct, ?_⟩
  have same : ∀ cs : List (Call ScopeToken),
      (cs.map Call.shape).filterMap Call.declares? = cs.filterMap Call.declares? := by
    intro cs
    rw [List.filterMap_map]
    exact List.filterMap_congr fun c _ => Call.declares?_shape c
  have taken := wrote.filterMap Call.declares?
  simpa only [Open.written, Open.script, scriptOf, List.nil_append, same] using taken

theorem built_names {t : TaskTree} {declared : List String} (h : t.Built declared) :
    (t.allNodes.map TaskNode.name).Nodup := by
  obtain ⟨body, rfl, distinct, _⟩ := built_layout h
  exact (Outline.layoutSerial_allNames body []).symm ▸ distinct

/-- Every level of a built tree is in the order of declaration and waits for its own tasks only. -/
theorem built_level {t sub : TaskTree} {declared : List String} (h : t.Built declared)
    (mem : sub ∈ t.levels) : (sub.map TaskNode.name).Sublist declared ∧
      ∀ x y, (x, y) ∈ sub.edges → x ∈ sub.map TaskNode.name ∧ y ∈ sub.map TaskNode.name := by
  obtain ⟨body, rfl, distinct, order⟩ := built_layout h
  obtain ⟨level, rfl, script, names⟩ := Outline.written_of_levels mem
  have faithful := Outline.layout_faithful
    ((distinct.sublist names).sublist (Outline.namesOf_sublist level))
  refine ⟨?_, fun x y edge => ?_⟩
  · rw [Outline.layoutSerial_names]
    exact (Outline.namesOf_declared level).trans ((script.filterMap _).trans order)
  · obtain ⟨n, node, waits, rfl⟩ := Outline.mem_edges.mp edge
    exact ⟨(faithful.placed n node).subset waits, List.mem_map_of_mem node⟩

namespace TaskBuilder

theorem finish_faithful {id : Nat} {action : String} {calls : List (Call ScopeToken)}
    {b : TaskBuilder} {t : TaskTree} (accepted : Accepted (new id action) calls b)
    (finished : b.finish = .ok t) :
    ∃! body : List Outline, scriptOf body = calls.map Call.shape ∧
      (t.allNodes.map TaskNode.name).Nodup ∧
      ∀ level sub, LevelOf body t level sub → Faithful level sub := by
  obtain ⟨os, inv, wrote⟩ := accepted_inv accepted (new_inv id action)
  obtain ⟨body, rfl, layout, distinct⟩ := finish_layout inv finished
  simp only [Open.written, Open.script, Outline.scriptOf, List.nil_append] at wrote
  refine ⟨body, ⟨wrote, ?_, fun level sub h => ?_⟩, fun other h => ?_⟩
  · rw [layout, TaskTree.allNodes, Outline.layoutSerial_allNames]
    exact distinct
  · obtain ⟨rfl, distinct⟩ := Outline.levelOf_layout h layout distinct
    exact Outline.layout_faithful (distinct.sublist (Outline.namesOf_sublist level))
  · exact Outline.scriptOf_injective (h.1.trans wrote.symm)

/-- Two parallel members, one of which is a scope and one a decision, between two steps. -/
theorem finish_faithful_parallel :
    let delay := fun name => Call.step (τ := ScopeToken) { name, work := .delay 1 }
    let calls := [delay "a", .openParallel, .openSerial, .close ⟨0, 2, .serial⟩, delay "b",
      .openDecision { name := "d", script := { text := "" } }, .openBranch .failure,
      .close ⟨0, 4, .branch .failure⟩, .openBranch .success, delay "e",
      .close ⟨0, 5, .branch .success⟩, .close ⟨0, 3, .decision⟩, .close ⟨0, 1, .parallel⟩,
      delay "c"]
    ∃ b t, Accepted (new 0 "act") calls b ∧ b.finish = .ok t ∧
      t.edges = [("a", "b"), ("a", "d"), ("b", "c"), ("d", "c")] ∧
      ∃! body : List Outline, scriptOf body = calls.map Call.shape ∧
        (t.allNodes.map TaskNode.name).Nodup ∧
        ∀ level sub, LevelOf body t level sub → Faithful level sub := by
  intro delay calls
  obtain ⟨b, t, accepted, finished, edges⟩ : ∃ b t, Accepted (new 0 "act") calls b ∧
      b.finish = .ok t ∧ t.edges = [("a", "b"), ("a", "d"), ("b", "c"), ("d", "c")] :=
    ⟨_, _, .call rfl <| .call rfl <| .call rfl <| .call rfl <| .call rfl <| .call rfl <|
      .call rfl <| .call rfl <| .call rfl <| .call rfl <| .call rfl <| .call rfl <| .call rfl <|
      .call rfl <| .done _, rfl, rfl⟩
  exact ⟨b, t, accepted, finished, edges, finish_faithful accepted finished⟩

end TaskBuilder

end Blueprint
