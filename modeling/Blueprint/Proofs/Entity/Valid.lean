import Blueprint.Entity.Validate
import Blueprint.Proofs.Entity.Made

/-!
# Entities that were validated

What `Entity.validate` grants of the slots, the actions, their tasks and the editable paths of an
entity.
-/

namespace Blueprint.Entity

variable {e : Entity}

theorem validate_parts (concrete : e.kind ≠ .mixin) (h : e.validate = .ok ()) :
    e.checkContent = .ok () ∧ e.checkAttributes = .ok () ∧
      ∀ entry ∈ e.actions.entries, e.checkAction entry.1 entry.2 = .ok () := by
  unfold validate at h
  rw [if_neg concrete] at h
  obtain ⟨_, content, h⟩ := bind_ok h
  obtain ⟨_, actions, attributes⟩ := bind_ok h
  exact ⟨mapError_ok content, mapError_ok attributes, forM_ok actions⟩

theorem checkActionKind_ok {k : EntityKind} {name : String} {a : Action}
    (h : checkActionKind k name a = .ok ()) :
    a.kind = actionKind k.schema name ∧ (a.kind = .user → k.schema.userActions = true) := by
  unfold checkActionKind at h
  dsimp only at h
  split at h
  · cases h
  · rename_i allowed
    split at h
    · rename_i same
      refine ⟨same, fun user => ?_⟩
      rw [same] at user
      simpa [user] using allowed
    · cases h

theorem validate_actions (concrete : e.kind ≠ .mixin) (h : e.validate = .ok ()) :
    e.actions.Each fun k a => a.kind = actionKind e.kind.schema k := by
  intro entry mem
  obtain ⟨_, kind, -⟩ := bind_ok ((validate_parts concrete h).2.2 entry mem)
  exact (checkActionKind_ok (mapError_ok kind)).1

theorem validate_users (concrete : e.kind ≠ .mixin) (h : e.validate = .ok ()) :
    ∀ entry ∈ e.actions.entries, entry.2.kind = .user → e.kind.schema.userActions = true := by
  intro entry mem
  obtain ⟨_, kind, -⟩ := bind_ok ((validate_parts concrete h).2.2 entry mem)
  exact (checkActionKind_ok (mapError_ok kind)).2

theorem validate_actionVars (concrete : e.kind ≠ .mixin) (h : e.validate = .ok ()) :
    ∀ entry ∈ e.actions.entries, ∀ v ∈ entry.2.vars.keys, Text.isIdentifier v = true := by
  intro entry mem v known
  obtain ⟨_, -, rest⟩ := bind_ok ((validate_parts concrete h).2.2 entry mem)
  obtain ⟨_, vars, -⟩ := bind_ok rest
  have checked := forM_ok vars v known
  split at checked
  · assumption
  · cases checked

/-- An editable path begins with an attribute. -/
theorem validate_editables (concrete : e.kind ≠ .mixin) (h : e.validate = .ok ()) :
    ∀ path ∈ e.editables, (Text.split '.' path).headD "" ∈ e.kind.schema.attrKeys := by
  intro path mem
  obtain ⟨_, -, rest⟩ := bind_ok (validate_parts concrete h).1
  obtain ⟨_, -, rest⟩ := bind_ok rest
  obtain ⟨_, editables, -⟩ := bind_ok rest
  have checked := forM_ok editables path mem
  unfold checkEditable at checked
  split at checked
  · rename_i known
    exact List.contains_iff_mem.mp known
  · cases checked

/-- References of the kind that a slot of the schema asks for, and only one where it holds one. -/
structure Fits (s : KindSchema) (slot : String) (refs : List Ref) (spec : SlotSpec) : Prop where
  known : spec ∈ s.slots
  named : spec.name = slot
  single : spec.many = false → refs.length ≤ 1
  kinds : ∀ r ∈ refs, r.kind = spec.target

theorem checkSlot_ok {s : KindSchema} {slot : String} {refs : List Ref}
    (h : checkSlot s slot refs = .ok ()) : ∃ spec, Fits s slot refs spec := by
  unfold checkSlot at h
  split at h
  · cases h
  · rename_i spec found
    obtain ⟨single, kinds⟩ : (spec.many = false → refs.length ≤ 1) ∧
        ∀ r ∈ refs, (if r.kind = spec.target then Except.ok () else
          .error (ValidationFault.slotTarget slot spec.target r.key)) = .ok () := by
      split at h
      · cases h
      · rename_i allowed
        refine ⟨fun one => ?_, forM_ok h⟩
        simpa [one] using allowed
    refine ⟨spec, List.mem_of_find?_eq_some found, by simpa using List.find?_some found, single,
      fun r listed => ?_⟩
    by_contra other
    have passed := kinds r listed
    rw [if_neg other] at passed
    cases passed

theorem checkTask_ok {s : KindSchema} {n : TaskNode} (h : checkTask s n = .ok ()) :
    (n.target = none → n.needsTarget = true → s.defaultTarget ≠ .none) ∧
      ∀ r k, n.target = some r → n.targetKind? = some k → r.kind = k := by
  unfold checkTask at h
  split at h
  · rename_i none
    refine ⟨fun _ needs default => ?_, fun r _ own => nomatch none.symm.trans own⟩
    simp [needs, default] at h
  · rename_i r own
    refine ⟨fun none => (nomatch own.symm.trans none), fun r' k own' wants => ?_⟩
    obtain rfl := Option.some.inj (own.symm.trans own')
    rw [wants] at h
    dsimp only at h
    by_contra other
    rw [if_neg other] at h
    cases h

theorem validate_slots (concrete : e.kind ≠ .mixin) (h : e.validate = .ok ()) :
    ∀ entry ∈ e.references.entries, ∃ spec, Fits e.kind.schema entry.1 entry.2 spec := by
  intro entry mem
  obtain ⟨_, slots, -⟩ := bind_ok (validate_parts concrete h).1
  exact checkSlot_ok (forM_ok slots entry mem)

theorem validate_tasks (concrete : e.kind ≠ .mixin) (h : e.validate = .ok ()) :
    ∀ entry ∈ e.actions.entries, ∀ n ∈ entry.2.tree.allNodes,
      checkTask e.kind.schema n = .ok () := by
  intro entry mem n node
  obtain ⟨_, -, rest⟩ := bind_ok ((validate_parts concrete h).2.2 entry mem)
  obtain ⟨_, -, tasks⟩ := bind_ok rest
  exact mapError_ok (forM_ok tasks n node)

end Blueprint.Entity
