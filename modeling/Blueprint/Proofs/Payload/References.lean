import Blueprint.Proofs.Payload.Resources

/-!
# References of a document

A reference leads to one definition if the root brings along the collection of its kind; what the
root reaches beyond these collections is referred to and never defined.
-/

namespace Blueprint.Payload

variable {p : Payload} {root : Entity}

/-! ### What objects refer to -/

theorem target_shownRunbook {s : RunbookScope} {j : Json}
    (mem : j ∈ ((shownRunbook s root).items "task_definition_list").filterMap
      (Json.get? "target_any_local_reference")) :
    ∃ target e, s.targetEntity? target = some e ∧ j = refTo root e ∧
      (target = s.defaultTarget? ∨
        ∃ task, target = s.payload.resolved.target? s.id s.action.name task) := by
  obtain ⟨o, listed, found⟩ := List.mem_filterMap.mp mem
  rcases List.mem_cons.mp listed with rfl | listed
  · cases same : s.targetEntity? s.defaultTarget? with
    | none => simp [shownMain, same, targetField, Json.get?, Entries.get?] at found
    | some e =>
      simp [shownMain, same, targetField, Json.get?, Entries.get?] at found
      exact ⟨_, e, same, found.symm, Or.inl rfl⟩
  · obtain ⟨n, _, rfl⟩ := List.mem_map.mp listed
    cases same : s.targetEntity? (s.payload.resolved.target? s.id s.action.name n.name) with
    | none =>
      simp [RunbookScope.shown, shownTask, same, targetField, Json.get?, Entries.get?] at found
    | some e =>
      simp [RunbookScope.shown, shownTask, same, targetField, Json.get?, Entries.get?] at found
      exact ⟨_, e, same, found.symm, Or.inr ⟨n.name, rfl⟩⟩

def RefersReachable (p : Payload) (root : Entity) (j : Json) : Prop :=
  ∃ id ∈ p.resolved.reachable, ∃ e, p.entity id = .ok e ∧ j = refTo root e

section Walk

variable {g : EntityGraph} {start : EntityId} (walk : p.resolved.Walk g start)

include walk

theorem SlotRef.reachable {id : EntityId} {j : Json} (h : SlotRef p root id j) :
    RefersReachable p root j := by
  obtain ⟨slot, t, e, bound, found, same⟩ := h
  exact ⟨t, walk.closed _ _ (ResolvedGraph.refers_of_slot bound), e, found, same⟩

theorem defaultTarget_reachable {s : RunbookScope} (scope : s.payload = p)
    (known : s.id ∈ p.resolved.reachable) {t : EntityId} (h : s.defaultTarget? = some t) :
    t ∈ p.resolved.reachable := by
  subst scope
  unfold RunbookScope.defaultTarget? at h
  split at h
  · exact Option.some.inj h ▸ known
  · exact walk.closed _ _ (ResolvedGraph.refers_of_slot (List.mem_of_mem_head? h))
  · cases h

theorem Shown.target_reachable {id : EntityId} {e : Entity} {o : Json}
    (h : Shown p root id e o) (known : id ∈ p.resolved.reachable) {j : Json}
    (mem : j ∈ targetsIn o) : RefersReachable p root j := by
  obtain ⟨r, runbook, mem⟩ := List.mem_flatMap.mp mem
  rw [h.runbooks] at runbook
  obtain ⟨a, -, rfl⟩ := List.mem_map.mp runbook
  obtain ⟨target, e', found, rfl, source⟩ := target_shownRunbook mem
  obtain ⟨t, rfl, found⟩ := Option.bind_eq_some_iff.mp found
  refine ⟨t, ?_, e', entity_ok.mpr found, rfl⟩
  rcases source with default | ⟨task, bound⟩
  · exact defaultTarget_reachable walk rfl known default.symm
  · exact walk.closed _ _ (ResolvedGraph.refers_of_target? bound.symm)

end Walk

/-! ### Definitions that a reference leads to -/

/-- A reference with the kind, the name and the identifier of a definition. -/
def PointsAt (j : Json) (k : EntityKind) (d : Json) : Prop :=
  ∃ name uuid, j = .obj [("kind", .str k.refKind), ("name", .str name), ("uuid", .str uuid)] ∧
    d.text? "name" = some name ∧ d.text? "uuid" = some uuid

/-- A reference that points at one of the definitions of a document. -/
def Leads (doc j : Json) : Prop :=
  ∃! place : EntityKind × Nat,
    ∃ d, (definitionsOf doc place.1)[place.2]? = some d ∧ PointsAt j place.1 d

theorem refKind_inj {a b : EntityKind} (h : a.refKind = b.refKind) : a = b := by
  have all : ∀ a ∈ EntityKind.all, ∀ b ∈ EntityKind.all, a.refKind = b.refKind → a = b := by decide
  exact all a (EntityKind.mem_all a) b (EntityKind.mem_all b) h

theorem pointsAt_refTo {e : Entity} {k : EntityKind} {d : Json} (h : PointsAt (refTo root e) k d) :
    k = e.kind ∧ d.text? "name" = some e.name := by
  obtain ⟨name, uuid, same, named, -⟩ := h
  simp only [refTo, reference, Json.obj.injEq, List.cons.injEq, Prod.mk.injEq, Json.str.injEq,
    true_and, and_true] at same
  exact ⟨(refKind_inj same.1).symm, same.2.1 ▸ named⟩

theorem Defines.pointsAt {id : EntityId} {e : Entity} {d : Json} (h : Defines p root id e d) :
    PointsAt (refTo root e) e.kind d :=
  ⟨_, _, rfl, h.name, h.uuid⟩

/-- The definitions of a document: all reachable entities of the collected kinds, and no others. -/
structure Collects (p : Payload) (root : Entity) (doc : Json) : Prop where
  rooted : p.entity p.resolved.root = .ok root
  collected : ∀ k ∈ collectionsOf root.kind, Collected p k (definitionsOf doc k)
  others : ∀ k ∉ collectionsOf root.kind, definitionsOf doc k = []

theorem collection_of_root (k k' : EntityKind) (h : k' ∈ collectionsOf k) :
    k'.collection?.isSome = true := by
  have all : ∀ k ∈ EntityKind.all, ∀ k' ∈ collectionsOf k, k'.collection?.isSome = true := by decide
  exact all k (EntityKind.mem_all k) k' h

theorem root_notCollected (k : EntityKind) : k ∉ collectionsOf k := by
  cases k <;> decide

theorem Resources.collects (rooted : p.entity p.resolved.root = .ok root) {doc j : Json}
    (h : Resources p root j) (at_ : doc.within? ["spec", "resources"] = some j) :
    Collects p root doc := by
  refine ⟨rooted, fun k mem => ?_, fun k mem => ?_⟩
  · obtain ⟨name, named⟩ := Option.isSome_iff_exists.mp (collection_of_root _ _ mem)
    rw [definitionsOf, named, at_]
    exact h.collected k mem name named
  · unfold definitionsOf
    split
    · rename_i name r named found
      rw [at_] at found
      exact Option.some.inj found ▸ h.others k mem name named
    · rfl

theorem Collects.distinct {doc : Json} (h : Collects p root doc) (k : EntityKind) :
    ((definitionsOf doc k).map (Json.text? "name")).Nodup := by
  by_cases collected : k ∈ collectionsOf root.kind
  · exact (h.collected k collected).distinct
  · rw [h.others k collected]
    exact List.nodup_nil

theorem Collects.leads_iff {doc : Json} (h : Collects p root doc) {id : EntityId} {e : Entity}
    (known : id ∈ p.resolved.reachable) (found : p.entity id = .ok e) :
    Leads doc (refTo root e) ↔ e.kind ∈ collectionsOf root.kind := by
  constructor
  · rintro ⟨⟨k, i⟩, ⟨d, listed, points⟩, -⟩
    obtain ⟨rfl, -⟩ := pointsAt_refTo points
    by_contra absent
    rw [h.others _ absent] at listed
    cases listed
  · intro collected
    have all := h.collected _ collected
    obtain ⟨i, place⟩ := List.mem_iff_getElem?.mp
      (mem_reachableOfKind.mpr ⟨known, e, entity_ok.mp found, rfl⟩)
    obtain ⟨d, listed, e', found', -, made⟩ := getElem?_of_forall₂ all.defines place
    obtain rfl : e' = e := Except.ok.inj (found'.symm.trans found)
    have defines := definition_ok h.rooted found made
    refine ⟨(e'.kind, i), ⟨d, listed, defines.pointsAt⟩, ?_⟩
    rintro ⟨k, i'⟩ ⟨d', listed', points⟩
    obtain ⟨rfl, named⟩ := pointsAt_refTo points
    have inside : i' < (definitionsOf doc e'.kind).length := (List.getElem?_eq_some_iff.mp listed').1
    have same : i' = i := by
      refine (List.getElem?_inj (by simpa using inside) all.distinct).mp ?_
      rw [List.getElem?_map, List.getElem?_map, listed, listed']
      simp only [Option.map_some, named, defines.name]
    rw [same]

end Blueprint.Payload

namespace Blueprint.Compiled

open Payload

/-- The objects of a document that show entities: the resources, and every definition. -/
def entityObjects (doc : Json) : List Json :=
  (doc.within? ["spec", "resources"]).toList ++ EntityKind.all.flatMap (definitionsOf doc)

/-- A reference to an entity, wherever a document makes one. -/
inductive Reference (c : Compiled) (j : Json) : Prop where
  | field {o : Json} (object : o ∈ entityObjects c.document) (mem : j ∈ fieldRefs o)
  | target {o : Json} (object : o ∈ entityObjects c.document) (mem : j ∈ targetsIn o)
  /-- The login of a substrate that has a credential. -/
  | login {i : Nat} {id : EntityId} {o : Json}
      (substrate : (c.resolved.reachableOfKind .substrate)[i]? = some id)
      (credential : c.resolved.slot id "credential" ≠ [])
      (definition : (definitionsOf c.document .substrate)[i]? = some o)
      (found : o.within? ["readiness_probe", "login_credential_local_reference"] = some j)

/-- The object that defines the entity with this id, which is of this kind. -/
def Emits (c : Compiled) (root : Entity) (k : EntityKind) (id : EntityId) (d : Json) : Prop :=
  ∃ e, c.resolved.graph.entity? id = some e ∧ e.kind = k ∧ PointsAt (refTo root e) k d

/-- A document in which every reference leads to one definition, and every reachable entity but the
root is defined once, in the collection of its kind. -/
structure Closed (c : Compiled) (root : Entity) : Prop where
  references : ∀ j, c.Reference j → Leads c.document j
  emitted : ∀ k, List.Forall₂ (c.Emits root k)
    ((c.resolved.reachableOfKind k).filter fun id => id ≠ c.resolved.root)
    (definitionsOf c.document k)

variable {g : EntityGraph} {context : CompileContext} {c : Compiled} {root : Entity}

/-- What a compiled document shows of the graph it was compiled from. -/
structure ShowsGraph (c : Compiled) (g : EntityGraph) (context : CompileContext) (root : Entity) :
    Prop where
  walk : c.resolved.Walk g c.resolved.root
  rooted : c.resolved.graph.entity? c.resolved.root = some root
  isRoot : root.kind.isRoot = true
  resources : ∃ j, c.document.within? ["spec", "resources"] = some j ∧
    Shown ⟨c.resolved, context⟩ root c.resolved.root root j
  collects : Collects ⟨c.resolved, context⟩ root c.document
  objects : ∀ o ∈ entityObjects c.document, ∃ id ∈ c.resolved.reachable, ∃ e,
    c.resolved.graph.entity? id = some e ∧ Shown ⟨c.resolved, context⟩ root id e o

theorem showsGraph (h : compile g context = .ok c) : ∃ root, c.ShowsGraph g context root := by
  obtain ⟨-, walked, rendered⟩ := compile_ok h
  obtain ⟨root, j, rooted, isRoot, -, place, resources⟩ := document_ok rendered
  obtain ⟨start, -, walk⟩ := resolve_walk walked
  obtain rfl : c.resolved.root = start := walk.start
  have collects := resources.collects rooted place
  refine ⟨root, walk, entity_ok.mp rooted, isRoot, ⟨j, place, resources.shown⟩, collects,
    fun o object => ?_⟩
  rcases List.mem_append.mp object with object | object
  · rw [place] at object
    obtain rfl : o = j := by simpa using object
    exact ⟨c.resolved.root, List.mem_of_mem_head? walk.first, root, entity_ok.mp rooted,
      resources.shown⟩
  · obtain ⟨k, -, listed⟩ := List.mem_flatMap.mp object
    by_cases collected : k ∈ collectionsOf root.kind
    · obtain ⟨i, listed⟩ := List.mem_iff_getElem?.mp listed
      obtain ⟨id, place, e, found, -, made⟩ :=
        getElem?_of_forall₂ (collects.collected k collected).defines.flip listed
      exact ⟨id, (mem_reachableOfKind.mp (List.mem_of_getElem? place)).1, e, entity_ok.mp found,
        (definition_ok rooted found made).shown⟩
    · rw [collects.others k collected] at listed
      cases listed

theorem ShowsGraph.root_concrete (h : c.ShowsGraph g context root) : root.kind ≠ .mixin := by
  intro mixin
  have isRoot := h.isRoot
  rw [mixin] at isRoot
  cases isRoot

theorem ShowsGraph.declared (h : c.ShowsGraph g context root) {id : EntityId} {e : Entity}
    (found : c.resolved.graph.entity? id = some e) : ∃ d ∈ g.declared, d.entity = e := by
  rw [h.walk.graph] at found
  obtain ⟨d, place, same⟩ := Option.map_eq_some_iff.mp found
  exact ⟨d, List.mem_of_getElem? place, same⟩

theorem ShowsGraph.reference_reachable (h : c.ShowsGraph g context root) {j : Json}
    (reference : c.Reference j) : RefersReachable ⟨c.resolved, context⟩ root j := by
  cases reference with
  | field object mem =>
    obtain ⟨id, _, e, -, shown⟩ := h.objects _ object
    exact (shown.references j mem).reachable h.walk
  | target object mem =>
    obtain ⟨id, known, e, -, shown⟩ := h.objects _ object
    exact shown.target_reachable h.walk known mem
  | login substrate credential definition found =>
    by_cases collected : .substrate ∈ collectionsOf root.kind
    · obtain ⟨o, listed, e, known, kind, made⟩ :=
        getElem?_of_forall₂ (h.collects.collected _ collected).defines substrate
      obtain rfl : o = _ := Option.some.inj (listed.symm.trans definition)
      exact (definition_login h.collects.rooted known kind made credential found).reachable h.walk
    · rw [h.collects.others _ collected] at definition
      cases definition

theorem ShowsGraph.emitted (h : c.ShowsGraph g context root) {k : EntityKind}
    (collected : k ∈ collectionsOf root.kind) :
    List.Forall₂ (c.Emits root k) (c.resolved.reachableOfKind k) (definitionsOf c.document k) := by
  refine (h.collects.collected k collected).defines.imp ?_
  rintro id d ⟨e, found, rfl, made⟩
  exact ⟨e, entity_ok.mp found, rfl, (definition_ok h.collects.rooted found made).pointsAt⟩

theorem ShowsGraph.root_notListed (h : c.ShowsGraph g context root) {k : EntityKind}
    (collected : k ∈ collectionsOf root.kind) : c.resolved.root ∉ c.resolved.reachableOfKind k := by
  intro mem
  obtain ⟨-, e, found, rfl⟩ := mem_reachableOfKind.mp mem
  obtain rfl : root = e := Option.some.inj (h.rooted.symm.trans found)
  exact root_notCollected _ collected

theorem ShowsGraph.closed_iff (h : c.ShowsGraph g context root) :
    c.Closed root ↔
      (∀ id ∈ c.resolved.reachable, id ≠ c.resolved.root →
        ∀ e, c.resolved.graph.entity? id = some e → e.kind ∈ collectionsOf root.kind) ∧
      ∀ j, c.Reference j → j ≠ refTo root root := by
  have leads : ∀ id ∈ c.resolved.reachable, ∀ e, c.resolved.graph.entity? id = some e →
      (Leads c.document (refTo root e) ↔ e.kind ∈ collectionsOf root.kind) :=
    fun id known e found => h.collects.leads_iff known (entity_ok.mpr found)
  constructor
  · intro closed
    refine ⟨fun id known other e found => ?_, fun j reference same => ?_⟩
    · by_contra absent
      have all := closed.emitted e.kind
      rw [h.collects.others _ absent, List.forall₂_nil_right_iff] at all
      have listed := mem_reachableOfKind.mpr ⟨known, e, found, rfl⟩
      exact List.filter_eq_nil_iff.mp all id listed (by simpa using other)
    · -- No root brings along its own kind, so a reference to the root leads nowhere.
      have root_leads := closed.references j reference
      rw [same, leads _ (List.mem_of_mem_head? h.walk.first) root h.rooted] at root_leads
      exact root_notCollected _ root_leads
  · rintro ⟨brought, apart⟩
    refine ⟨fun j reference => ?_, fun k => ?_⟩
    · obtain ⟨id, known, e, found, rfl⟩ := h.reference_reachable reference
      have found := entity_ok.mp found
      refine (leads id known e found).mpr (brought id known ?_ e found)
      rintro rfl
      obtain rfl : root = e := Option.some.inj (h.rooted.symm.trans found)
      exact apart _ reference rfl
    · by_cases collected : k ∈ collectionsOf root.kind
      · rw [List.filter_eq_self.mpr]
        · exact h.emitted collected
        · intro id mem
          simpa using fun same : id = c.resolved.root => h.root_notListed collected (same ▸ mem)
      · rw [h.collects.others k collected, List.forall₂_nil_right_iff, List.filter_eq_nil_iff]
        intro id mem
        obtain ⟨known, e, found, rfl⟩ := mem_reachableOfKind.mp mem
        simpa using fun other => collected (brought id known other e found)

/-- Every reference of a document is to something reachable, and leads to its definition just when
the root brings along its kind; so a document is closed just when it defines all that it reaches and
never refers to its root. -/
theorem compile_closed_iff (h : compile g context = .ok c) :
    ∃ root, c.resolved.graph.entity? c.resolved.root = some root ∧
      c.resolved.Walk g c.resolved.root ∧
      (∀ j, c.Reference j → ∃ id ∈ c.resolved.reachable, ∃ e,
        c.resolved.graph.entity? id = some e ∧ j = refTo root e ∧
          (Leads c.document j ↔ e.kind ∈ collectionsOf root.kind)) ∧
      (∀ k ∈ collectionsOf root.kind, List.Forall₂ (c.Emits root k)
        (c.resolved.reachableOfKind k) (definitionsOf c.document k)) ∧
      (∀ k ∉ collectionsOf root.kind, definitionsOf c.document k = []) ∧
      (c.Closed root ↔
        (∀ id ∈ c.resolved.reachable, id ≠ c.resolved.root →
          ∀ e, c.resolved.graph.entity? id = some e → e.kind ∈ collectionsOf root.kind) ∧
        ∀ j, c.Reference j → j ≠ refTo root root) := by
  obtain ⟨root, shows⟩ := showsGraph h
  refine ⟨root, shows.rooted, shows.walk, fun j reference => ?_, fun k => shows.emitted,
    shows.collects.others, shows.closed_iff⟩
  obtain ⟨id, known, e, found, rfl⟩ := shows.reference_reachable reference
  exact ⟨id, known, e, entity_ok.mp found, rfl, shows.collects.leads_iff known found⟩

/-- A runbook with one step, which runs on an entity of this kind. -/
def runningOn (k : EntityKind) : EntityGraph :=
  let step := .leaf { name := "hello", target := some (.named ⟨k, "web"⟩) } (.exec { text := "ls" })
  let run : Action := { name := "run", kind := .system, tree := [step] }
  let runbook : Entity :=
    { kind := .runbook, name := "Ops", actions := (∅ : OrderedMap Action).insert "run" run }
  { declared := [⟨{ kind := k, name := "web" }, 1⟩, ⟨runbook, 0⟩], root := some 1 }

theorem compile_closed_iff_endpoint : ∃ c root, compile (runningOn .endpoint) {} = .ok c ∧
    c.resolved.graph.entity? c.resolved.root = some root ∧ c.Closed root := by
  obtain ⟨c, compiled, kind, brought, objects, substrates⟩ := ok_of_test
    (x := compile (runningOn .endpoint) {})
    (P := fun c => (∀ e ∈ c.resolved.graph.entity? c.resolved.root, e.kind = .runbook) ∧
      (∀ id ∈ c.resolved.reachable, id ≠ c.resolved.root →
        ∀ e ∈ c.resolved.graph.entity? id, e.kind = .endpoint) ∧
      (∀ o ∈ entityObjects c.document, ∀ j ∈ fieldRefs o ++ targetsIn o,
        j.text? "kind" ≠ some "runbook") ∧
      c.resolved.reachableOfKind .substrate = []) (by decide +kernel)
  obtain ⟨root, rooted, -, -, -, -, closed⟩ := compile_closed_iff compiled
  have kind := kind root rooted
  refine ⟨c, root, compiled, rooted, closed.mpr ⟨fun id known other e found => ?_, ?_⟩⟩
  · rw [brought id known other e found, kind]
    decide
  · rintro j reference rfl
    have word : (refTo root root).text? "kind" = some "runbook" :=
      congrArg (fun k : EntityKind => some k.refKind) kind
    cases reference with
    | field object mem => exact objects _ object _ (List.mem_append_left _ mem) word
    | target object mem => exact objects _ object _ (List.mem_append_right _ mem) word
    | login substrate =>
      rw [substrates] at substrate
      cases substrate

theorem not_closed_service : ∃ c root, compile (runningOn .service) {} = .ok c ∧
    c.resolved.graph.entity? c.resolved.root = some root ∧ ¬c.Closed root := by
  obtain ⟨c, compiled, kind, known, other, found⟩ := ok_of_test
    (x := compile (runningOn .service) {})
    (P := fun c => (∀ e ∈ c.resolved.graph.entity? c.resolved.root, e.kind = .runbook) ∧
      0 ∈ c.resolved.reachable ∧ 0 ≠ c.resolved.root ∧
      (c.resolved.graph.entity? 0).map (·.kind) = some .service) (by decide +kernel)
  obtain ⟨root, shows⟩ := showsGraph compiled
  obtain ⟨e, found, service⟩ := Option.map_eq_some_iff.mp found
  refine ⟨c, root, compiled, shows.rooted, fun closed => ?_⟩
  have brought := (shows.closed_iff.mp closed).1 0 known other e found
  rw [service, kind root shows.rooted] at brought
  revert brought
  decide

end Blueprint.Compiled
