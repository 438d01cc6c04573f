import Blueprint.Compile
import Blueprint.Proofs.Data.Partners
import Blueprint.Proofs.Payload.Entities
import Mathlib.Data.List.Nodup

/-!
# The resources of a document

The collections that a root brings along, each with the definitions of all reachable entities of its
kind, and what the root shows itself.
-/

namespace Blueprint.Payload

variable {p : Payload} {root : Entity}

/-! ### Collections -/

theorem repeatedName?_none {names seen : List String} (h : repeatedName? seen names = none) :
    names.Nodup ∧ ∀ n ∈ names, n ∉ seen := by
  induction names generalizing seen with
  | nil => simp
  | cons n ns ih =>
    rw [repeatedName?] at h
    split at h
    · cases h
    · rename_i fresh
      obtain ⟨distinct, apart⟩ := ih h
      refine ⟨List.nodup_cons.mpr ⟨fun mem => apart n mem List.mem_cons_self, distinct⟩, ?_⟩
      exact List.forall_mem_cons.mpr
        ⟨by simpa using fresh, fun m mem other => apart m mem (List.mem_cons_of_mem _ other)⟩

/-- An object that was rendered for the entity with this id, which is of this kind. -/
def DefinesAs (p : Payload) (k : EntityKind) (id : EntityId) (o : Json) : Prop :=
  ∃ e, p.entity id = .ok e ∧ e.kind = k ∧ p.definition id = .ok o

/-- A list of definitions for all reachable entities of a kind, in their order. -/
structure Collected (p : Payload) (k : EntityKind) (items : List Json) : Prop where
  defines : List.Forall₂ (DefinesAs p k) (p.resolved.reachableOfKind k) items
  distinct : (items.map (Json.text? "name")).Nodup

theorem mem_reachableOfKind {r : ResolvedGraph} {k : EntityKind} {id : EntityId} :
    id ∈ r.reachableOfKind k ↔
      id ∈ r.reachable ∧ ∃ e, r.graph.entity? id = some e ∧ e.kind = k := by
  rw [ResolvedGraph.reachableOfKind, List.mem_filter]
  cases r.graph.entity? id <;> simp

theorem collection_ok (rooted : p.entity p.resolved.root = .ok root) {k : EntityKind} {j : Json}
    (h : p.collection k = .ok j) : ∃ items, j = .arr items ∧ Collected p k items := by
  obtain ⟨names, named, h⟩ := bind_ok h
  split at h
  · cases h
  · rename_i none
    obtain ⟨items, rendered, h⟩ := bind_ok h
    have known : ∀ id ∈ p.resolved.reachableOfKind k, ∃ e, p.entity id = .ok e ∧ e.kind = k := by
      intro id mem
      obtain ⟨-, e, found, kind⟩ := mem_reachableOfKind.mp mem
      exact ⟨e, entity_ok.mpr found, kind⟩
    have defines : List.Forall₂ (DefinesAs p k) (p.resolved.reachableOfKind k) items := by
      refine ((List.forall₂_and_left _ _).mpr ⟨known, mapM_ok rendered⟩).imp ?_
      rintro id o ⟨⟨e, found, kind⟩, made⟩
      exact ⟨e, found, kind, made⟩
    have same : items.map (Json.text? "name") = names.map some := by
      refine map_eq_map ?_ defines (mapM_ok named)
      rintro id o n ⟨e, found, -, made⟩ name
      rw [found] at name
      rw [(definition_ok rooted found made).name, pure_ok name]
    refine ⟨items, pure_ok h, defines, ?_⟩
    rw [same]
    exact List.Nodup.map (fun _ _ h => Option.some.inj h) (repeatedName?_none none).1

theorem collection?_inj {k k' : EntityKind} {name : String} (h : k.collection? = some name)
    (same : k'.collection?.getD "" = name) : k' = k := by
  have all : ∀ a ∈ EntityKind.all, ∀ b ∈ EntityKind.all, a.collection?.isSome = true →
      b.collection?.getD "" = a.collection?.getD "" → b = a := by decide
  refine all k (EntityKind.mem_all k) k' (EntityKind.mem_all k') ?_ ?_
  · rw [h]
    rfl
  · rw [same, h]
    rfl

theorem collections_ok (rooted : p.entity p.resolved.root = .ok root) {ks : List EntityKind}
    {fields : List (String × Json)} (h : ks.mapM p.collectionField = .ok fields) :
    Entries.keys fields = ks.map (fun k => k.collection?.getD "") ∧
      ∀ k ∈ ks, ∀ name, k.collection? = some name →
        ∃ items, Entries.get? name fields = some (.arr items) ∧ Collected p k items := by
  have each := mapM_ok h
  clear h
  induction each with
  | nil => simp [Entries.keys]
  | @cons k f ks fields first _ ih =>
    obtain ⟨j, rendered, first⟩ := bind_ok first
    obtain ⟨items, rfl, collected⟩ := collection_ok rooted rendered
    rw [pure_ok first]
    refine ⟨congrArg (_ :: ·) ih.1, fun k' mem name named => ?_⟩
    rw [Entries.get?]
    by_cases same : k.collection?.getD "" = name
    · obtain rfl := collection?_inj named same
      exact ⟨items, if_pos same, collected⟩
    · rw [if_neg same]
      rcases List.mem_cons.mp mem with rfl | mem
      · rw [named] at same
        exact (same rfl).elim
      · exact ih.2 k' mem name named

/-! ### What a root shows -/

/-- The collections that a root brings along. -/
def collectionsOf : EntityKind → List EntityKind
  | .blueprint => blueprintKinds
  | .runbook => [.endpoint, .credential]
  | .environment => [.substrate, .credential]
  | _ => []

def definitionsOf (doc : Json) (k : EntityKind) : List Json :=
  match k.collection?, doc.within? ["spec", "resources"] with
  | some name, some resources => resources.items name
  | _, _ => []

/-- The resources of a document: what the root shows, and its collections. -/
structure Resources (p : Payload) (root : Entity) (j : Json) : Prop where
  shown : Shown p root p.resolved.root root j
  collected : ∀ k ∈ collectionsOf root.kind, ∀ name, k.collection? = some name →
    Collected p k (j.items name)
  others : ∀ k ∉ collectionsOf root.kind, ∀ name, k.collection? = some name → j.items name = []

def rootVars (root : Entity) : String × Json :=
  ("variable_list", .arr (root.vars.values.map fun v =>
    v.payload (ownedAt root root ("variable/" ++ v.name))))

/-- Fields of the root that stand around its collections. -/
structure Around (p : Payload) (root : Entity) (front back : List (String × Json)) : Prop where
  apart : ∀ k : EntityKind, k.collection?.getD "" ∉ Entries.keys (front ++ back)
  shown : Shown p root p.resolved.root root (.obj (front ++ back ++ [rootVars root]))

theorem collection_apart (a b : EntityKind) : a.collection?.getD "" ∉ b.schema.attrKeys := by
  have all : ∀ a ∈ EntityKind.all, ∀ b ∈ EntityKind.all,
      a.collection?.getD "" ∉ b.schema.attrKeys := by decide
  exact all a (EntityKind.mem_all a) b (EntityKind.mem_all b)

theorem collection_notShown (k : EntityKind) :
    k.collection?.getD "" ∉ shownFields ∧ k.collection?.getD "" ≠ "variable_list" := by
  cases k <;> decide

variable {front back collections : List (String × Json)}

theorem get?_rootObject {key : String} (absent : key ∉ Entries.keys (attrs root)) :
    Json.get? key (.obj (attrs root ++ (front ++ collections ++ back) ++ [rootVars root])) =
      (Entries.get? key front).or ((Entries.get? key collections).or ((Entries.get? key back).or
        (Entries.get? key [rootVars root]))) := by
  simp only [Json.get?, Entries.get?_append, get?_none absent, Option.none_or, Option.or_assoc]

theorem Around.get?_collection (h : Around p root front back) {k : EntityKind} {name : String}
    (named : k.collection? = some name) :
    Json.get? name (.obj (attrs root ++ (front ++ collections ++ back) ++ [rootVars root])) =
      Entries.get? name collections := by
  obtain rfl : k.collection?.getD "" = name := by rw [named, Option.getD_some]
  have apart := h.apart k
  rw [Entries.keys, List.map_append] at apart
  have inFront : Entries.get? (k.collection?.getD "") front = none :=
    get?_none fun mem => apart (List.mem_append_left _ mem)
  have inBack : Entries.get? (k.collection?.getD "") back = none :=
    get?_none fun mem => apart (List.mem_append_right _ mem)
  rw [get?_rootObject (keys_attrs root ▸ collection_apart k root.kind), inFront, inBack, rootVars,
    Entries.get?, if_neg fun other => (collection_notShown k).2 other.symm]
  simp [Entries.get?]

theorem Around.resources (h : Around p root front back)
    (rooted : p.entity p.resolved.root = .ok root)
    (made : (collectionsOf root.kind).mapM p.collectionField = .ok collections) :
    Resources p root (.obj (attrs root ++ (front ++ collections ++ back) ++ [rootVars root])) := by
  obtain ⟨keys, collected⟩ := collections_ok rooted made
  refine ⟨h.shown.congr fun key mem => ?_, fun k mem name named => ?_, fun k mem name named => ?_⟩
  · have attrs : key ∉ Entries.keys (attrs root) := by
      rw [keys_attrs]
      exact fun other => shownFields_apart root.kind key mem (List.mem_append_right _ other)
    have absent : key ∉ Entries.keys collections := by
      rw [keys]
      intro other
      obtain ⟨k, -, same⟩ := List.mem_map.mp other
      exact (collection_notShown k).1 (same ▸ mem)
    rw [get?_rootObject attrs, get?_none absent, Option.none_or]
    simp only [Json.get?, Entries.get?_append, Option.or_assoc]
  · obtain ⟨items, found, each⟩ := collected k mem name named
    rw [Json.items, h.get?_collection named, found]
    exact each
  · have absent : name ∉ Entries.keys collections := by
      rw [keys]
      intro other
      obtain ⟨k', mem', same⟩ := List.mem_map.mp other
      exact mem (collection?_inj named same ▸ mem')
    rw [Json.items, h.get?_collection named, get?_none absent]
    rfl

/-! ### Roots by kind -/

theorem around_plain (vars : varsOf root = root.vars.values) (listed : listedOf root = [])
    (placed : placedOf root = [])
    (fields : ∀ key ∈ ["variable_list", "action_list", "runbook", "options"],
      key ∉ Entries.keys back)
    (apart : ∀ k : EntityKind, k.collection?.getD "" ∉ Entries.keys back)
    (bound : ∀ f ∈ back, Bound p root p.resolved.root f) : Around p root [] back := by
  have last : ∀ f ∈ [rootVars root], Bound p root p.resolved.root f :=
    List.forall_mem_singleton.mpr (bound_other (by decide))
  have none : actionsOf root = [] := by rw [actionsOf, listed, placed]; rfl
  refine ⟨apart, Shown.prepend fields bound last ⟨?_, ?_, ?_, by simp [none], fieldRefs_bound last⟩⟩
  · rw [vars]
    rfl
  · rw [listed]
    rfl
  · rw [actionsOf, listed, placed]
    rfl

theorem around_runbook (kind : root.kind = .runbook) (free : Unreserved root (placedAt root "run"))
    {target : Json}
    (bound : target = .null ∨ SlotRef p root p.resolved.root target) :
    Around p root
      [("runbook", shownRunbook ⟨p, p.resolved.root, root, placedAt root "run"⟩ root)]
      [("default_target_reference", target)] := by
  have only : actionsOf root = [placedAt root "run"] := by
    simp [actionsOf, listedOf, placedOf, kind]
  refine ⟨fun k => by cases k <;> simp [Entries.keys, EntityKind.collection?],
    ?_, ?_, ?_, by simp [only, free], ?_⟩
  · rw [varsOf, kind]
    rfl
  · rw [listedOf, kind]
    rfl
  · simp only [actionsOf, listedOf, placedOf, kind]
    rfl
  · refine fieldRefs_bound ?_
    simp only [List.forall_mem_append, List.forall_mem_singleton]
    exact ⟨⟨bound_other (by decide), bound_field (by decide) bound⟩, bound_other (by decide)⟩

section Roots

variable {fields : List (String × Json)}

def Surrounds (p : Payload) (root : Entity) (fields : List (String × Json)) : Prop :=
  ∃ front collections back, fields = front ++ collections ++ back ∧
    (collectionsOf root.kind).mapM p.collectionField = .ok collections ∧ Around p root front back

theorem projectFields_ok (kind : root.kind = .project) (h : p.projectFields root = .ok fields) :
    Surrounds p root fields := by
  unfold projectFields at h
  obtain ⟨accounts, -, h⟩ := bind_ok h
  obtain ⟨environments, -, h⟩ := bind_ok h
  obtain ⟨users, -, h⟩ := bind_ok h
  obtain ⟨default, h⟩ : ∃ default, fields = [("account_reference_list", accounts),
      ("environment_reference_list", environments), ("user_reference_list", users),
      ("default_environment_reference", default)] := by
    dsimp only at h
    split at h
    · obtain ⟨default, -, h⟩ := bind_ok h
      exact ⟨default, pure_ok h⟩
    · obtain ⟨default, -, h⟩ := bind_ok h
      exact ⟨default, pure_ok h⟩
  refine ⟨[], [], _, h, ?_, around_plain ?_ ?_ ?_ ?_ (fun k => ?_) ?_⟩
  · rw [kind]
    rfl
  · rw [varsOf, kind]
  · rw [listedOf, kind]
  · rw [placedOf, kind]
  · simp [Entries.keys]
  · cases k <;> simp [Entries.keys, EntityKind.collection?]
  · simp only [List.forall_mem_cons]
    exact ⟨bound_other (by decide), bound_other (by decide), bound_other (by decide),
      bound_other (by decide), by simp⟩

theorem policyFields_ok (kind : root.kind = .policy) : Surrounds p root [] := by
  refine ⟨[], [], [], rfl, ?_, around_plain ?_ ?_ ?_ ?_ (fun k => ?_) ?_⟩
  · rw [kind]
    rfl
  · rw [varsOf, kind]
  · rw [listedOf, kind]
  · rw [placedOf, kind]
  · simp [Entries.keys]
  · simp [Entries.keys]
  · simp

theorem environmentFields_ok (kind : root.kind = .environment)
    (h : p.environmentFields root = .ok fields) : Surrounds p root fields := by
  obtain ⟨substrates, first, h⟩ := bind_ok h
  obtain ⟨credentials, second, h⟩ := bind_ok h
  obtain ⟨accounts, -, h⟩ := bind_ok h
  refine ⟨[], [substrates, credentials], _, pure_ok h, ?_,
    around_plain ?_ ?_ ?_ ?_ (fun k => ?_) ?_⟩
  · rw [kind, collectionsOf, List.mapM_cons, List.mapM_cons, first, second]
    rfl
  · rw [varsOf, kind]
  · rw [listedOf, kind]
  · rw [placedOf, kind]
  · simp [Entries.keys]
  · cases k <;> simp [Entries.keys, EntityKind.collection?]
  · exact List.forall_mem_singleton.mpr (bound_other (by decide))

variable (rooted : p.entity p.resolved.root = .ok root)

include rooted

theorem blueprintFields_ok (kind : root.kind = .blueprint)
    (h : p.blueprintFields p.resolved.root = .ok fields) : Surrounds p root fields := by
  obtain ⟨collections, made, h⟩ := bind_ok h
  obtain ⟨default, rendered, h⟩ := bind_ok h
  have bound := (slotRef_ok rooted rendered).slotRef
  rw [List.append_assoc] at h
  refine ⟨[], collections, _, pure_ok h, by rwa [kind], around_plain ?_ ?_ ?_ ?_ (fun k => ?_) ?_⟩
  · rw [varsOf, kind]
  · rw [listedOf, kind]
  · rw [placedOf, kind]
  · split <;> simp [Entries.keys]
  · split <;> cases k <;> simp [Entries.keys, EntityKind.collection?]
  · refine List.forall_mem_append.mpr ⟨?_, ?_⟩
    · split
      · simp
      · exact List.forall_mem_singleton.mpr (bound_field (by decide) bound)
    · simp only [List.forall_mem_cons]
      exact ⟨bound_other (by decide), bound_other (by decide), by simp⟩

theorem runbookFields_ok (kind : root.kind = .runbook)
    (h : p.runbookFields p.resolved.root = .ok fields) : Surrounds p root fields := by
  obtain ⟨runbook, rendered, h⟩ := bind_ok h
  obtain ⟨rfl, free⟩ := runbookFor_ok rooted rooted rendered
  obtain ⟨endpoints, first, h⟩ := bind_ok h
  obtain ⟨credentials, second, h⟩ := bind_ok h
  obtain ⟨target, rendered, h⟩ := bind_ok h
  refine ⟨_, [endpoints, credentials], _, pure_ok h, ?_,
    around_runbook kind free (slotRef_ok rooted rendered).slotRef⟩
  rw [kind, collectionsOf, List.mapM_cons, List.mapM_cons, first, second]
  rfl

theorem rootFields_ok (h : p.rootFields p.resolved.root root = .ok fields) :
    Surrounds p root fields := by
  unfold rootFields at h
  split at h
  case h_1 kind => exact blueprintFields_ok rooted kind h
  case h_2 kind => exact runbookFields_ok rooted kind h
  case h_3 kind => exact environmentFields_ok kind h
  case h_4 kind => exact projectFields_ok kind h
  case h_5 kind => exact pure_ok h ▸ policyFields_ok kind
  case h_6 => cases h

omit rooted in
theorem rootFields_isRoot {id : EntityId} (h : p.rootFields id root = .ok fields) :
    root.kind.isRoot = true := by
  unfold rootFields at h
  split at h
  case h_6 => cases h
  all_goals
    rename_i kind
    rw [kind]
    rfl

end Roots

/-! ### Documents -/

theorem resources_ok (rooted : p.entity p.resolved.root = .ok root) {j : Json}
    (h : p.resources = .ok j) : Resources p root j ∧ root.kind.isRoot = true := by
  unfold resources at h
  dsimp only at h
  rw [rooted] at h
  obtain ⟨_, ⟨⟩, h⟩ := bind_ok h
  obtain ⟨fields, rendered, h⟩ := bind_ok h
  obtain ⟨front, collections, back, rfl, made, around⟩ := rootFields_ok rooted rendered
  rw [vars_eq rooted] at h
  rw [pure_ok h]
  exact ⟨around.resources rooted made, rootFields_isRoot rendered⟩

theorem document_ok {editables : EditableTree} {doc : Json} (h : p.document editables = .ok doc) :
    ∃ root j, p.entity p.resolved.root = .ok root ∧ root.kind.isRoot = true ∧
      (∀ id ∈ p.resolved.reachable, p.resolved.isResolved id = true) ∧
      doc.within? ["spec", "resources"] = some j ∧ Resources p root j := by
  obtain ⟨fields, rendered, h⟩ := bind_ok h
  obtain ⟨_, checked, rendered⟩ := bind_ok rendered
  obtain ⟨root, rooted, rendered⟩ := bind_ok rendered
  obtain ⟨j, made, rendered⟩ := bind_ok rendered
  obtain ⟨metadata, -, rendered⟩ := bind_ok rendered
  obtain rfl := pure_ok rendered
  split at h
  · cases h
  · rw [pure_ok h]
    obtain ⟨resources, isRoot⟩ := resources_ok rooted made
    refine ⟨root, j, rooted, isRoot, fun id mem => ?_, rfl, resources⟩
    have known := forM_ok checked id mem
    unfold checkResolved at known
    cases resolved : p.resolved.isResolved id with
    | true => rfl
    | false =>
      rw [resolved] at known
      obtain ⟨e, -, known⟩ := bind_ok (show p.entity id >>= _ = _ from known)
      cases known

end Blueprint.Payload

namespace Blueprint

/-- What the passes of a successful compile return. -/
theorem compile_passes {g : EntityGraph} {context : CompileContext} {c : Compiled}
    (h : compile g context = .ok c) : g.validate = .ok () ∧ resolveGraph g = .ok c.resolved ∧
      Macro.check c.resolved context.strictMacros = .ok c.warnings ∧
      EditableTree.extract c.resolved = .ok c.editables ∧
      (Payload.mk c.resolved context).document c.editables = .ok c.document := by
  obtain ⟨_, validated, h⟩ := bind_ok h
  obtain ⟨_, -, h⟩ := bind_ok h
  obtain ⟨_, -, h⟩ := bind_ok h
  obtain ⟨resolved, walked, h⟩ := bind_ok h
  obtain ⟨_, -, h⟩ := bind_ok h
  obtain ⟨_, checked, h⟩ := bind_ok h
  obtain ⟨editables, extracted, h⟩ := bind_ok h
  obtain ⟨_, -, h⟩ := bind_ok h
  obtain ⟨document, rendered, h⟩ := bind_ok h
  obtain ⟨_, -, h⟩ := bind_ok h
  rw [pure_ok h]
  exact ⟨validated, walked, checked, extracted, rendered⟩

theorem compile_ok {g : EntityGraph} {context : CompileContext} {c : Compiled}
    (h : compile g context = .ok c) : g.validate = .ok () ∧ resolveGraph g = .ok c.resolved ∧
      (Payload.mk c.resolved context).document c.editables = .ok c.document := by
  obtain ⟨validated, walked, -, -, rendered⟩ := compile_passes h
  exact ⟨validated, walked, rendered⟩

end Blueprint
