import Blueprint.Proofs.Compile.Strict
import Blueprint.Proofs.Graph.Kinds
import Blueprint.Proofs.Payload.Identifiers
import Blueprint.Proofs.Payload.Lookup
import Blueprint.Proofs.Payload.Slots

/-!
# References that a document keeps

What the slots of an entity are bound to is shown in its object, all of it and in order. It is lost
where the entity has no object, and where a substrate has no probe to log in with its credential.
-/

namespace Blueprint.Compiled

open Payload

variable {g : EntityGraph} {context : CompileContext} {c : Compiled} {root e : Entity}
  {id : EntityId} {o : Json} {slot : String}

/-- The references that the objects of an entity show at the place of a slot. -/
def refsOf (c : Compiled) (id : EntityId) (e : Entity) (slot : String) : List Json :=
  match slotPlace? e.kind slot with
  | some place => (c.objectsOf id e).flatMap fun o => place.refs o
  | none => []

/-! ### Bound slots -/

/-- The slots of a reachable entity hold what its schema asks for. -/
theorem wellSlotted (h : compile g context = .ok c) (met : id ∈ c.resolved.reachable)
    (found : c.resolved.graph.entity? id = some e) (concrete : e.kind ≠ .mixin) :
    ∃ slots, (∀ slot, c.resolved.slot id slot = (slots.get? slot).getD []) ∧
      e.WellSlotted g slots := by
  obtain ⟨valid, resolved, -, -, rendered⟩ := compile_passes h
  obtain ⟨start, -, search⟩ :=
    (resolveGraph_breadthFirst (rooted_of_document resolved rendered)).2.2 _ resolved
  obtain ⟨e', found', binds, bound⟩ := search.bound id met
  rw [search.graph] at found
  obtain rfl : e' = e := Option.some.inj (found'.symm.trans found)
  obtain ⟨depth, declared⟩ := EntityGraph.entity?_eq_some.mp found
  have checked := forM_ok valid _ (List.mem_of_getElem? declared)
  refine ⟨e'.boundSlots g, fun slot => ?_, binds.wellSlotted concrete checked⟩
  rw [ResolvedGraph.slot, bound]
  rfl

theorem slot_spec {slots : OrderedMap (List EntityId)} (slotted : e.WellSlotted g slots)
    (bound : (slots.get? slot).getD [] ≠ []) : ∃ spec ∈ e.kind.schema.slots, spec.name = slot ∧
      (spec.many = false → ((slots.get? slot).getD []).length ≤ 1) := by
  cases held : slots.get? slot with
  | none =>
    rw [held] at bound
    exact (bound rfl).elim
  | some ts =>
    obtain ⟨spec, known, named, -, single⟩ := slotted.kinds _ (Entries.mem_of_get? held)
    exact ⟨spec, known, named, single⟩

/-! ### Shown slots -/

theorem ShowsGraph.refs_of_collected (shows : c.ShowsGraph g context root)
    (h : compile g context = .ok c) (met : id ∈ c.resolved.reachable)
    (found : c.resolved.graph.entity? id = some e) (inner : id ≠ c.resolved.root)
    (collected : e.kind ∈ collectionsOf root.kind) (bound : c.resolved.slot id slot ≠ []) :
    (¬Probeless e → RefersTo ⟨c.resolved, context⟩ root (c.resolved.slot id slot)
      (c.refsOf id e slot)) ∧ (Probeless e → c.refsOf id e slot = []) := by
  obtain ⟨slots, held, slotted⟩ := wellSlotted h met found (collected_inner _ _ collected).2
  have placed := collection_of_root _ _ collected
  have single : ∀ slot place, slotPlace? e.kind slot = some place → place.many = false →
      (c.resolved.slot id slot).length ≤ 1 := by
    intro slot place known one
    by_cases none : c.resolved.slot id slot = []
    · rw [none]
      exact Nat.zero_le 1
    · rw [held] at none ⊢
      obtain ⟨spec, listed, rfl, few⟩ := slot_spec slotted none
      obtain ⟨place', known', same⟩ := slotPlace_of_schema placed listed
      obtain rfl : place' = place := Option.some.inj (known'.symm.trans known)
      exact few (same.symm.trans one)
  obtain ⟨spec, listed, rfl, -⟩ := slot_spec slotted (held slot ▸ bound)
  obtain ⟨place, known, -⟩ := slotPlace_of_schema placed listed
  obtain ⟨o, only, defined⟩ := shows.object_of_collected met found inner collected
  have there : c.refsOf id e spec.name = place.refs o := by
    rw [refsOf, known, only]
    exact List.flatMap_singleton _ _
  rw [there]
  exact definition_slots shows.collects.rooted (entity_ok.mpr found) defined single known bound

/-- The targets of a slot of an entity below the root are shown all of them, each once and in order,
or none of them. They are shown exactly if the root brings along the kind of the entity, which is no
substrate whose readiness probe has no fields. -/
theorem compile_shows_slots (h : compile g context = .ok c) :
    ∃ root, c.resolved.graph.entity? c.resolved.root = some root ∧
      ∀ id ∈ c.resolved.reachable, id ≠ c.resolved.root →
        ∃ e, c.resolved.graph.entity? id = some e ∧ ∀ slot, c.resolved.slot id slot ≠ [] →
          (RefersTo ⟨c.resolved, context⟩ root (c.resolved.slot id slot) (c.refsOf id e slot) ∨
            c.refsOf id e slot = []) ∧
          (RefersTo ⟨c.resolved, context⟩ root (c.resolved.slot id slot) (c.refsOf id e slot) ↔
            e.kind ∈ collectionsOf root.kind ∧ ¬Probeless e) := by
  obtain ⟨root, shows⟩ := showsGraph h
  obtain ⟨-, resolved, rendered⟩ := compile_ok h
  have closed := ResolvedGraph.closed_of_resolveGraph (rooted_of_document resolved rendered) resolved
  refine ⟨root, shows.rooted, fun id met inner => ?_⟩
  obtain ⟨e, found⟩ := closed.declared id met
  refine ⟨e, found, fun slot bound => ?_⟩
  have hidden (none : c.refsOf id e slot = []) : ¬RefersTo ⟨c.resolved, context⟩ root
      (c.resolved.slot id slot) (c.refsOf id e slot) := by
    rw [none]
    exact fun refers => bound (refersTo_nil.mp refers)
  by_cases collected : e.kind ∈ collectionsOf root.kind
  · obtain ⟨shown, lost⟩ := shows.refs_of_collected h met found inner collected bound
    by_cases probeless : Probeless e
    · have none := lost probeless
      exact ⟨.inr none, fun refers => (hidden none refers).elim, fun kept =>
        (kept.2 probeless).elim⟩
    · have refers := shown probeless
      exact ⟨.inl refers, fun _ => ⟨collected, probeless⟩, fun _ => refers⟩
  · have none : c.refsOf id e slot = [] := by
      have other : ¬c.Brought root id e := not_or.mpr ⟨inner, collected⟩
      rw [refsOf, shows.objectsOf_other other]
      split <;> rfl
    exact ⟨.inr none, fun refers => (hidden none refers).elim, fun kept =>
      (collected kept.1).elim⟩

/-- An environment with a machine that logs in with a credential, and the machine's probe. -/
def probing (probe : Json) : EntityGraph :=
  let login : Entity := { kind := .credential, name := "login" }
  let vm : Entity :=
    { kind := .substrate, name := "VM"
      references := (∅ : OrderedMap (List Ref)).insert "credential" [.named login.key]
      attrs := (∅ : OrderedMap Json).insert "readiness_probe" probe }
  let lab : Entity :=
    { kind := .environment, name := "Lab"
      references := (∅ : OrderedMap (List Ref)).insert "substrates" [.named vm.key] }
  { declared := [⟨login, 1⟩, ⟨vm, 1⟩, ⟨lab, 0⟩], root := some 2 }

theorem compile_shows_slots_probing :
    ∃ c, compile (probing (.obj [("delay_secs", .str "5")])) {} = .ok c ∧
      c.resolved.slot 1 "credential" = [0] ∧
      ∃ root e, c.resolved.graph.entity? 1 = some e ∧
        RefersTo ⟨c.resolved, {}⟩ root [0] (c.refsOf 1 e "credential") := by
  obtain ⟨c, compiled, met, inner, bound, kinds, probed⟩ := ok_of_test
    (x := compile (probing (.obj [("delay_secs", .str "5")])) {})
    (P := fun c => 1 ∈ c.resolved.reachable ∧ 1 ≠ c.resolved.root ∧
      c.resolved.slot 1 "credential" = [0] ∧
      (c.resolved.graph.entity? c.resolved.root).map Entity.kind = some .environment ∧
      ∀ e ∈ c.resolved.graph.entity? 1, e.kind = .substrate ∧ ¬Probeless e) (by decide +kernel)
  obtain ⟨root, rooted, each⟩ := compile_shows_slots compiled
  obtain ⟨e, found, slots⟩ := each 1 met inner
  obtain ⟨kind, probe⟩ := probed e found
  have collected : e.kind ∈ collectionsOf root.kind := by
    rw [rooted] at kinds
    rw [kind, Option.some.inj kinds]
    decide
  have shown := (slots "credential" (by simp [bound])).2.mpr ⟨collected, probe⟩
  rw [bound] at shown
  exact ⟨c, compiled, bound, root, e, found, shown⟩

/-- Where the probe is null, nothing in the object of the machine names its credential. -/
theorem credential_dropped : ∃ c, compile (probing .null) {} = .ok c ∧
    1 ∈ c.resolved.reachable ∧ 1 ≠ c.resolved.root ∧ c.resolved.slot 1 "credential" = [0] ∧
    ∃ e, c.resolved.graph.entity? 1 = some e ∧ (c.objectsOf 1 e).length = 1 ∧
      ∀ o ∈ c.objectsOf 1 e, ∀ j ∈ o.objects, j.text? "name" ≠ some "login" := by
  obtain ⟨c, compiled, dropped⟩ := ok_of_test (x := compile (probing .null) {})
    (P := fun c => 1 ∈ c.resolved.reachable ∧ 1 ≠ c.resolved.root ∧
      c.resolved.slot 1 "credential" = [0] ∧
      ∃ e ∈ c.resolved.graph.entity? 1, (c.objectsOf 1 e).length = 1 ∧
        ∀ o ∈ c.objectsOf 1 e, ∀ j ∈ o.objects, j.text? "name" ≠ some "login")
    (by decide +kernel)
  exact ⟨c, compiled, dropped⟩

end Blueprint.Compiled
