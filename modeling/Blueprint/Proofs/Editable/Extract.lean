import Blueprint.Editable.Extract
import Blueprint.Proofs.Data.Maps
import Blueprint.Proofs.Entity.Made
import Blueprint.Proofs.Graph.Meaning

/-!
# What is extracted

Every entry of an editable tree is that of a reachable entity, and its fields are those of the
variables, the editable attributes and the action variables of the entity.
-/

namespace Blueprint

namespace EditableTree

variable {r : ResolvedGraph} {t : EditableTree}

/-- The entry of something reachable. -/
def EntryOf (r : ResolvedGraph) (entity : EditableEntity) : Prop :=
  ∃ id ∈ r.reachable, ∃ e, r.graph.entity? id = some e ∧
    entity = entry (place e (id == r.root)).2 e

theorem add_each {P : EditableEntity → Prop} {name : String} {entity : EditableEntity}
    (old : t.sections.Each fun _ es => ∀ x ∈ es, P x) (new : P entity) :
    (t.add name entity).sections.Each fun _ es => ∀ x ∈ es, P x := by
  unfold add
  split
  · exact old
  · refine OrderedMap.Each.insert old (List.forall_mem_append.mpr ⟨fun x mem => ?_, ?_⟩)
    · unfold sectionEntities at mem
      cases found : t.sections.get? name with
      | none =>
        rw [found] at mem
        cases mem
      | some es =>
        rw [found] at mem
        exact old _ (Entries.mem_of_get? found) x mem
    · exact List.forall_mem_singleton.mpr new

theorem extract_ok (h : extract r = .ok t) :
    t.sections.Each fun _ es => ∀ x ∈ es, EntryOf r x := by
  refine foldlM_ok (P := fun t : EditableTree => t.sections.Each fun _ es => ∀ x ∈ es, EntryOf r x)
    (fun t id met t' old added => ?_) OrderedMap.each_empty h
  obtain ⟨e, found, added⟩ := bind_ok added
  rw [pure_ok added]
  exact add_each old ⟨id, met, e, EntityGraph.entity_ok.mp found, rfl⟩

/-- A field of an editable tree belongs to something reachable. -/
theorem field_of_extract (h : extract r = .ok t) {f : EditableField} (mem : f ∈ t.fields) :
    ∃ id ∈ r.reachable, ∃ e, r.graph.entity? id = some e ∧
      f ∈ (entry (place e (id == r.root)).2 e).fields := by
  obtain ⟨entity, listed, inside⟩ := List.mem_flatMap.mp mem
  obtain ⟨es, grouped, listed⟩ := List.mem_flatten.mp listed
  obtain ⟨s, known, rfl⟩ := List.mem_map.mp grouped
  obtain ⟨id, met, e, found, rfl⟩ := extract_ok h s known entity listed
  exact ⟨id, met, e, found, inside⟩

theorem mem_actionFields {base : String} {e : Entity} {f : EditableField} :
    f ∈ (actionEntries base e).flatMap (·.vars) ↔ ∃ a ∈ e.actions.values,
      f ∈ variableFields (base ++ "." ++ e.kind.actionPath a.name) a.vars.values := by
  rw [List.mem_flatMap]
  constructor
  · rintro ⟨action, listed, inside⟩
    obtain ⟨a, mem, shown⟩ := List.mem_filterMap.mp listed
    dsimp only at shown
    split at shown
    · cases shown
    · obtain rfl := Option.some.inj shown
      exact ⟨a, mem, inside⟩
  · rintro ⟨a, mem, inside⟩
    refine ⟨_, List.mem_filterMap.mpr ⟨a, mem, if_neg ?_⟩, inside⟩
    simpa using List.ne_nil_of_mem inside

/-- The fields of an entry. -/
theorem mem_entryFields {base : String} {e : Entity} {f : EditableField} :
    f ∈ (entry base e).fields ↔ f ∈ variableFields base e.vars.values ∨ f ∈ attrFields base e ∨
      ∃ a ∈ e.actions.values,
        f ∈ variableFields (base ++ "." ++ e.kind.actionPath a.name) a.vars.values := by
  rw [EditableEntity.fields, List.mem_append, List.mem_append, or_assoc, ← mem_actionFields]
  rfl

end EditableTree

end Blueprint
