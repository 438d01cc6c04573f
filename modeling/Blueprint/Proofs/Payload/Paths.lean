import Blueprint.Proofs.Builder.Order
import Blueprint.Proofs.Entity.Valid
import Blueprint.Proofs.Payload.Entities
import Blueprint.Proofs.Text.Slash
import Mathlib.Data.List.Nodup

/-!
# Paths inside an entity

Everything that the object of an entity defines has a path of its own under that of the entity.
-/

namespace Blueprint

open Text (Plain Lead)

theorem identifier_plain {s : String} (h : Text.isIdentifier s = true) : Plain s :=
  fun slash => absurd (Text.mem_identifier h slash) (by decide)

theorem names_of_namedVars {vars : OrderedMap Variable} (h : NamedVars vars) :
    vars.values.map (·.name) = vars.keys := by
  rw [OrderedMap.values, List.map_map]
  exact List.map_congr_left h

namespace Payload

/-! ### Names of actions -/

def listedNames (k : EntityKind) : List String :=
  (k.schema.systemActions.filter fun sa => sa.placement = .actionList).map (·.name)

def placedNames : EntityKind → List String
  | .package => ["install", "uninstall"]
  | .runbook => ["run"]
  | _ => []

theorem systemNames (k : EntityKind) : (listedNames k ++ placedNames k).Nodup ∧
    ∀ n ∈ listedNames k ++ placedNames k, (k.schema.systemAction? n).isSome = true ∧ Plain n := by
  have all : ∀ k ∈ EntityKind.all, (listedNames k ++ placedNames k).Nodup ∧
      ∀ n ∈ listedNames k ++ placedNames k,
        (k.schema.systemAction? n).isSome = true ∧ Plain n := by decide +kernel
  exact all k (EntityKind.mem_all k)

/-- An action with a name, with variables and tasks that can be told apart. -/
structure Shaped (a : Action) : Prop where
  plain : Plain a.name
  vars : (a.vars.values.map (·.name)).Nodup
  tree : ∃ declared, a.tree.Built declared

theorem shaped_of_named {k : String} {a : Action} (h : a.Named k) : Shaped a :=
  ⟨h.name ▸ identifier_plain h.identifier, names_of_namedVars h.vars ▸ a.vars.nodup, h.tree⟩

theorem stub_shaped {n : String} (plain : Plain n) : Shaped (stub n) :=
  ⟨plain, List.nodup_nil, [], 0, n, [], rfl, rfl⟩

variable {e : Entity}

theorem named_get? (named : e.Named) {n : String} {a : Action} (h : e.actions.get? n = some a) :
    a.Named n :=
  named.actions _ (Entries.mem_of_get? h)

theorem placedAt_shaped (named : e.Named) {n : String} (plain : Plain n) :
    Shaped (placedAt e n) ∧ (placedAt e n).name = n := by
  unfold placedAt
  cases found : e.actions.get? n with
  | none => exact ⟨stub_shaped plain, rfl⟩
  | some a => exact ⟨shaped_of_named (named_get? named found), (named_get? named found).name⟩

theorem listedSystem_shaped (named : e.Named) : ∀ a ∈ listedSystemActions e, Shaped a.1 := by
  intro a mem
  obtain ⟨sa, declared, shown⟩ := List.mem_filterMap.mp mem
  split at shown
  · cases shown
  · rename_i placement
    have inside : sa.name ∈ listedNames e.kind := List.mem_map_of_mem
      (List.mem_filter.mpr ⟨declared, by simpa using placement⟩)
    split at shown
    · rename_i found
      exact Option.some.inj shown ▸ shaped_of_named (named_get? named found)
    · split at shown
      · exact Option.some.inj shown ▸
          stub_shaped ((systemNames e.kind).2 _ (List.mem_append_left _ inside)).2
      · cases shown

theorem listedSystem_names (named : e.Named) :
    ((listedSystemActions e).map fun a => a.1.name).Sublist (listedNames e.kind) := by
  unfold listedSystemActions listedNames
  generalize e.kind.schema.emitAllSystem = all
  induction e.kind.schema.systemActions with
  | nil => exact List.Sublist.refl _
  | cons sa sas ih =>
    by_cases placement : sa.placement = .actionList
    · rw [List.filter_cons_of_pos (by simpa using placement)]
      cases found : e.actions.get? sa.name with
      | some a =>
        rw [List.filterMap_cons_some (b := (a, sa.wire)) (by simp [placement, found])]
        rw [List.map_cons, List.map_cons, (named_get? named found).name]
        exact ih.cons_cons _
      | none =>
        cases all with
        | true =>
          rw [List.filterMap_cons_some (b := (stub sa.name, sa.wire)) (by simp [placement, found])]
          exact ih.cons_cons _
        | false =>
          rw [List.filterMap_cons_none (by simp [found])]
          exact ih.cons _
    · rw [List.filter_cons_of_neg (by simpa using placement),
        List.filterMap_cons_none (by simp [placement])]
      exact ih

theorem user_shaped (named : e.Named) : ∀ a ∈ userActions e, Shaped a.1 := by
  intro a mem
  obtain ⟨a, listed, rfl⟩ := List.mem_map.mp mem
  obtain ⟨entry, inside, rfl⟩ := List.mem_map.mp (List.mem_filter.mp listed).1
  exact shaped_of_named (named.actions _ inside)

theorem user_names (named : e.Named)
    (kinds : e.actions.Each fun k a => a.kind = Entity.actionKind e.kind.schema k) :
    ((userActions e).map fun a => a.1.name).Nodup ∧
      ∀ n ∈ (userActions e).map fun a => a.1.name, e.kind.schema.systemAction? n = none := by
  have names : (userActions e).map (fun a => a.1.name) =
      (e.actions.entries.filter fun entry => entry.2.kind == .user).map (·.1) := by
    rw [userActions, OrderedMap.values, List.filter_map, List.map_map, List.map_map]
    exact List.map_congr_left fun entry mem => (named.actions entry (List.mem_filter.mp mem).1).name
  rw [names]
  refine ⟨e.actions.nodup.sublist (List.filter_sublist.map _), fun n mem => ?_⟩
  obtain ⟨entry, listed, rfl⟩ := List.mem_map.mp mem
  obtain ⟨inside, user⟩ := List.mem_filter.mp listed
  have kind : entry.2.kind = Entity.actionKind e.kind.schema entry.1 := kinds entry inside
  rw [eq_of_beq user, Entity.actionKind] at kind
  split at kind
  · cases kind
  · rename_i other
    simpa using other

theorem placedOf_names (named : e.Named) : (placedOf e).map (·.name) = placedNames e.kind := by
  unfold placedOf placedNames
  have install := (placedAt_shaped named (by decide : Plain "install")).2
  have uninstall := (placedAt_shaped named (by decide : Plain "uninstall")).2
  have run := (placedAt_shaped named (by decide : Plain "run")).2
  cases e.kind <;> simp [install, uninstall, run]

theorem actionsOf_names (named : e.Named)
    (kinds : e.actions.Each fun k a => a.kind = Entity.actionKind e.kind.schema k) :
    ((actionsOf e).map (·.name)).Nodup := by
  obtain ⟨system, user, names, listed, distinct, others⟩ : ∃ system user : List String,
      (actionsOf e).map (·.name) = system ++ user ++ placedNames e.kind ∧
        system.Sublist (listedNames e.kind) ∧ user.Nodup ∧
        ∀ n ∈ user, e.kind.schema.systemAction? n = none := by
    rw [actionsOf, List.map_append, List.map_map, placedOf_names named]
    unfold listedOf
    split
    case h_6 => exact ⟨[], [], rfl, List.nil_sublist _, List.nodup_nil, by simp⟩
    all_goals
      obtain ⟨distinct, others⟩ := user_names named kinds
      refine ⟨_, _, ?_, listedSystem_names named, distinct, others⟩
      rw [List.map_append]
      rfl
  obtain ⟨apart, known⟩ := systemNames e.kind
  have system_known : ∀ n ∈ system ++ placedNames e.kind, n ∉ user := by
    intro n mem other
    have inside : n ∈ listedNames e.kind ++ placedNames e.kind :=
      (listed.append (List.Sublist.refl _)).subset mem
    have declared := (known n inside).1
    rw [others n other] at declared
    cases declared
  rw [names]
  have shown := apart.sublist (listed.append (List.Sublist.refl (placedNames e.kind)))
  have order : (system ++ user ++ placedNames e.kind).Perm
      (user ++ (system ++ placedNames e.kind)) := by
    rw [← List.append_assoc]
    exact List.perm_append_comm.append_right _
  exact order.nodup_iff.mpr (List.nodup_append'.mpr
    ⟨distinct, shown, fun n other mem => system_known n mem other⟩)

theorem placedOf_shaped (named : e.Named) : ∀ a ∈ placedOf e, Shaped a := by
  have shaped := fun n plain => (placedAt_shaped (n := n) named plain).1
  unfold placedOf
  split
  · simp only [List.forall_mem_cons]
    exact ⟨shaped _ (by decide), shaped _ (by decide), by simp⟩
  · exact List.forall_mem_singleton.mpr (shaped _ (by decide))
  · simp

theorem actionsOf_shaped (named : e.Named) : ∀ a ∈ actionsOf e, Shaped a := by
  refine List.forall_mem_append.mpr ⟨List.forall_mem_map.mpr ?_, placedOf_shaped named⟩
  unfold listedOf
  split
  case h_6 => simp
  all_goals exact List.forall_mem_append.mpr ⟨listedSystem_shaped named, user_shaped named⟩

/-! ### Paths -/

/-- The paths of a runbook, its main task, its tasks and its variables. -/
def runbookParts (a : Action) : List String :=
  "runbook" :: ("dag" :: a.tree.allNodes.map fun n => "task/" ++ n.name) ++
    a.vars.values.map fun v => "variable/" ++ v.name

/-- The paths of all that the object of an entity defines besides itself. -/
def ownPaths (e : Entity) : List String :=
  ((varsOf e).map fun v => "variable/" ++ v.name) ++
    (((listedOf e).map fun a => "action/" ++ a.1.name) ++
      (actionsOf e).flatMap fun a => (runbookParts a).map ("action/" ++ a.name ++ "/" ++ ·))

theorem nodup_prefixed {names : List String} (p : String) (h : names.Nodup) :
    (names.map (p ++ ·)).Nodup :=
  h.map fun _ _ => Text.append_inj_right

theorem runbookParts_nodup {a : Action} (shaped : Shaped a) : (runbookParts a).Nodup := by
  obtain ⟨declared, built⟩ := shaped.tree
  have tasks := nodup_prefixed "task/" (built_names built)
  have vars := nodup_prefixed "variable/" shaped.vars
  rw [List.map_map] at tasks vars
  have task : Lead "task/" "task" := by decide
  have variable_ : Lead "variable/" "variable" := by decide
  refine List.nodup_append.mpr ⟨?_, vars, ?_⟩
  · refine List.nodup_cons.mpr ⟨fun mem => ?_, List.nodup_cons.mpr ⟨fun mem => ?_, tasks⟩⟩
    · rcases List.mem_cons.mp mem with same | mem
      · exact absurd same (by decide)
      · obtain ⟨n, -, same⟩ := List.mem_map.mp mem
        exact task.ne_plain (by decide) same.symm
    · obtain ⟨n, -, same⟩ := List.mem_map.mp mem
      exact task.ne_plain (by decide) same.symm
  · intro x mem y other
    obtain ⟨v, -, rfl⟩ := List.mem_map.mp other
    rcases List.mem_cons.mp mem with rfl | mem
    · exact variable_.ne_plain (by decide)
    · rcases List.mem_cons.mp mem with rfl | mem
      · exact variable_.ne_plain (by decide)
      · obtain ⟨n, -, rfl⟩ := List.mem_map.mp mem
        exact task.ne_lead variable_ (by decide)

theorem varsOf_names (named : e.Named) : ((varsOf e).map (·.name)).Nodup := by
  unfold varsOf
  split
  · exact List.nodup_nil
  · exact List.nodup_nil
  · exact names_of_namedVars named.vars ▸ e.vars.nodup

theorem ownPaths_nodup (named : e.Named)
    (kinds : e.actions.Each fun k a => a.kind = Entity.actionKind e.kind.schema k) :
    (ownPaths e).Nodup := by
  have names := actionsOf_names named kinds
  have shaped := actionsOf_shaped named
  have variable_ : Lead "variable/" "variable" := by decide
  have action : Lead "action/" "action" := by decide
  have vars := nodup_prefixed "variable/" (varsOf_names named)
  have listed : ((listedOf e).map fun a => a.1.name).Nodup := by
    rw [actionsOf, List.map_append, List.map_map] at names
    exact names.of_append_left
  have actions := nodup_prefixed "action/" listed
  rw [List.map_map] at vars actions
  refine List.nodup_append.mpr ⟨vars, List.nodup_append.mpr ⟨actions, ?_, ?_⟩, ?_⟩
  · refine List.nodup_flatMap.mpr
      ⟨fun a mem => nodup_prefixed _ (runbookParts_nodup (shaped a mem)), ?_⟩
    refine (List.pairwise_map.mp names).imp_of_mem fun {a b} mem mem' apart => ?_
    rintro x left right
    obtain ⟨y, -, rfl⟩ := List.mem_map.mp left
    obtain ⟨z, -, same⟩ := List.mem_map.mp right
    simp only [String.append_assoc] at same
    have same := Text.append_inj_right same
    simp only [← String.append_assoc] at same
    exact apart ((shaped b mem').plain.segment_inj (shaped a mem).plain same).1.symm
  · intro x mem y other
    obtain ⟨a, inside, rfl⟩ := List.mem_map.mp mem
    obtain ⟨b, -, other⟩ := List.mem_flatMap.mp other
    obtain ⟨z, -, rfl⟩ := List.mem_map.mp other
    intro same
    simp only [String.append_assoc] at same
    have same := Text.append_inj_right same
    -- The name of an action holds no slash, and the path of its runbook goes on with one.
    rw [← String.append_assoc] at same
    exact (shaped a.1 (List.mem_append_left _ (List.mem_map_of_mem inside))).plain.ne_segments same
  · intro x mem y other
    obtain ⟨v, -, rfl⟩ := List.mem_map.mp mem
    rcases List.mem_append.mp other with other | other
    · obtain ⟨a, -, rfl⟩ := List.mem_map.mp other
      exact variable_.ne_lead action (by decide)
    · obtain ⟨a, -, other⟩ := List.mem_flatMap.mp other
      obtain ⟨z, -, rfl⟩ := List.mem_map.mp other
      rw [String.append_assoc, String.append_assoc]
      exact variable_.ne_lead action (by decide)

end Payload

end Blueprint
