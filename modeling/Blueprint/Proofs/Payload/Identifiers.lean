import Blueprint.Proofs.Payload.Paths
import Blueprint.Proofs.Payload.References
import Blueprint.Proofs.Payload.Runbook
import Blueprint.Proofs.Uuid
import Mathlib.Data.Set.Function

/-!
# Identifiers of a document

An identifier is made from a path, and the paths of two definitions agree only if they belong to
entities of one kind and the name of one entity reaches into the paths of the other.
-/

namespace Blueprint.Payload

open Text (Plain Tail Continues)

variable {p : Payload} {root e : Entity} {id : EntityId} {o : Json}

/-! ### Identifiers in one object -/

/-- What the object of an entity defines besides itself. -/
def ownDefinitions (o : Json) : List Json :=
  o.items "variable_list" ++ (o.items "action_list" ++ (runbooksIn o).flatMap fun r =>
    r :: r.items "task_definition_list" ++ r.items "variable_list")

theorem uuids_shownRunbook (s : RunbookScope) :
    (shownRunbook s root :: (shownRunbook s root).items "task_definition_list" ++
      (shownRunbook s root).items "variable_list").map (Json.text? "uuid") =
    (runbookParts s.action).map fun q => some (s.ownedAt root q).text := by
  have vars : ((shownRunbook s root).items "variable_list").map (Json.text? "uuid") =
      s.action.vars.values.map fun v => some (s.ownedAt root ("variable/" ++ v.name)).text := by
    rw [vars_shownRunbook, List.map_map]
    refine List.map_congr_left fun v _ => ?_
    rw [RunbookScope.ownedAt, ← String.append_assoc]
    rfl
  rw [runbookParts, List.map_append, List.map_append, vars, List.map_map]
  congr 1
  rw [tasks_shownRunbook, List.map_cons, List.map_cons, List.map_cons, List.map_cons, List.map_map,
    List.map_map]
  rfl

theorem Shown.own_uuids (h : Shown p root id e o) : (ownDefinitions o).map (Json.text? "uuid") =
    (ownPaths e).map fun q => some (ownedAt root e q).text := by
  have runbooks : ((runbooksIn o).flatMap fun r =>
      r :: r.items "task_definition_list" ++ r.items "variable_list").map (Json.text? "uuid") =
      ((actionsOf e).flatMap fun a =>
        (runbookParts a).map ("action/" ++ a.name ++ "/" ++ ·)).map fun q =>
          some (ownedAt root e q).text := by
    rw [h.runbooks, List.flatMap_map, List.map_flatMap, List.map_flatMap]
    refine List.flatMap_congr fun a _ => ?_
    rw [uuids_shownRunbook, List.map_map]
    rfl
  rw [ownDefinitions, ownPaths, List.map_append, List.map_append, runbooks, h.vars, h.actions]
  simp only [List.map_append, List.map_map]
  rfl

/-! ### Paths of an entity -/

/-- The paths under the root of all that an entity defines. The root is no definition itself. -/
def pathsOf (e : Entity) : List String :=
  let own := (ownPaths e).map (entityPath e ++ "/" ++ ·)
  if e.kind.isRoot then own else entityPath e :: own

def sections : List String := ["variable", "action"]

/-- Two entities of one kind, the name of one going on where the other's paths do. -/
def Nested (a b : Entity) : Prop :=
  a.kind = b.kind ∧ (Continues sections a.name b.name ∨ Continues sections b.name a.name)

theorem ownPaths_section : ∀ q ∈ ownPaths e, ∃ w ∈ sections, ∃ x, q = w ++ "/" ++ x := by
  have variable_ : "variable/" = "variable" ++ "/" := by decide
  have action : "action/" = "action" ++ "/" := by decide
  intro q mem
  rcases List.mem_append.mp mem with mem | mem
  · obtain ⟨v, -, rfl⟩ := List.mem_map.mp mem
    exact ⟨"variable", by decide, v.name, congrArg (· ++ v.name) variable_⟩
  · refine ⟨"action", by decide, ?_⟩
    rcases List.mem_append.mp mem with mem | mem
    · obtain ⟨a, -, rfl⟩ := List.mem_map.mp mem
      exact ⟨a.1.name, congrArg (· ++ a.1.name) action⟩
    · obtain ⟨a, -, mem⟩ := List.mem_flatMap.mp mem
      obtain ⟨x, -, rfl⟩ := List.mem_map.mp mem
      refine ⟨a.name ++ "/" ++ x, ?_⟩
      rw [action]
      simp only [String.append_assoc]

theorem pathsOf_tail : ∀ q ∈ pathsOf e, ∃ t, Tail sections t ∧ q = entityPath e ++ t := by
  have own : ∀ q ∈ (ownPaths e).map (entityPath e ++ "/" ++ ·),
      ∃ t, Tail sections t ∧ q = entityPath e ++ t := by
    refine List.forall_mem_map.mpr fun q mem => ?_
    obtain ⟨w, inside, x, rfl⟩ := ownPaths_section q mem
    exact ⟨_, Or.inr ⟨w, inside, x, rfl⟩, String.append_assoc⟩
  unfold pathsOf
  dsimp only
  split
  · exact own
  · exact List.forall_mem_cons.mpr ⟨⟨"", Or.inl rfl, String.append_empty.symm⟩, own⟩

theorem kind_plain (k : EntityKind) : Plain k.name := by
  cases k <;> decide

theorem pathsOf_apart {a b : Entity} (apart : a.key ≠ b.key) (flat : ¬Nested a b) :
    ∀ q ∈ pathsOf a, ∀ q' ∈ pathsOf b, q ≠ q' := by
  intro q mem q' mem' same
  obtain ⟨t, tail, rfl⟩ := pathsOf_tail q mem
  obtain ⟨t', tail', rfl⟩ := pathsOf_tail q' mem'
  have split : a.kind.name ++ "/" ++ (a.name ++ t) = b.kind.name ++ "/" ++ (b.name ++ t') := by
    rw [← String.append_assoc, ← String.append_assoc]
    exact same
  -- No kind holds a slash, so the kinds agree and the rest is between the two names.
  obtain ⟨kinds, names⟩ := (kind_plain a.kind).segment_inj (kind_plain b.kind) split
  have kind : a.kind = b.kind := by
    have read := congrArg EntityKind.ofName? kinds
    rw [EntityKind.ofName?_name, EntityKind.ofName?_name] at read
    exact Option.some.inj read
  rcases Tail.overlap (by decide : ∀ w ∈ sections, Plain w) tail tail' names with ⟨name, -⟩ | goes
  · exact apart (by rw [Entity.key, Entity.key, kind, name])
  · exact flat ⟨kind, goes⟩

theorem pathsOf_nodup (named : e.Named)
    (kinds : e.actions.Each fun k a => a.kind = Entity.actionKind e.kind.schema k) :
    (pathsOf e).Nodup := by
  have own := nodup_prefixed (entityPath e ++ "/") (ownPaths_nodup named kinds)
  unfold pathsOf
  dsimp only
  split
  · exact own
  · refine List.nodup_cons.mpr ⟨fun mem => ?_, own⟩
    obtain ⟨q, -, same⟩ := List.mem_map.mp mem
    have length := congrArg (fun s : String => s.toList.length) same
    simp at length

/-! ### Identifiers from paths -/

theorem identifierAt_text_inj {r : String} {paths : List String}
    (injective : Set.InjOn (Uuid.ofName payloadSpace) {x | x ∈ paths.map (r ++ "/" ++ ·)})
    {q q' : String} (mem : q ∈ paths) (mem' : q' ∈ paths)
    (h : (identifierAt r q).text = (identifierAt r q').text) : q = q' := by
  have same := Uuid.text_inj (Uuid.length_ofName _ _) (Uuid.length_ofName _ _) h
  exact Text.append_inj_right
    (injective (List.mem_map_of_mem mem) (List.mem_map_of_mem mem') same)

def Carries (root e : Entity) (ds : List Json) : Prop :=
  ds.map (Json.text? "uuid") = (pathsOf e).map fun q => some (identifierAt root.name q).text

theorem Carries.path {ds : List Json} (h : Carries root e ds) {d : Json} (mem : d ∈ ds) :
    ∃ q ∈ pathsOf e, d.text? "uuid" = some (identifierAt root.name q).text := by
  have listed : d.text? "uuid" ∈ ds.map (Json.text? "uuid") := List.mem_map_of_mem mem
  rw [h] at listed
  obtain ⟨q, inside, uuid⟩ := List.mem_map.mp listed
  exact ⟨q, inside, uuid.symm⟩

theorem Shown.carries_own (h : Shown p root id e o) (isRoot : e.kind.isRoot = true) :
    Carries root e (ownDefinitions o) := by
  rw [Carries, h.own_uuids, pathsOf, if_pos isRoot, List.map_map]
  rfl

theorem Defines.carries (h : Defines p root id e o) (inner : e.kind.isRoot = false) :
    Carries root e (o :: ownDefinitions o) := by
  rw [Carries, List.map_cons, h.shown.own_uuids, h.uuid, pathsOf, inner, if_neg Bool.false_ne_true,
    List.map_cons, List.map_map]
  rfl

end Blueprint.Payload

namespace Blueprint.Compiled

open Payload

/-! ### Documents -/

def collectedEntities (c : Compiled) (root : Entity) (k : EntityKind) : List Entity :=
  if k ∈ collectionsOf root.kind then
    (c.resolved.reachableOfKind k).filterMap c.resolved.graph.entity?
  else []

/-- The entities that a document shows, the root first. -/
def owners (c : Compiled) (root : Entity) : List Entity :=
  root :: EntityKind.all.flatMap (c.collectedEntities root)

/-- The paths that the identifiers of all definitions are made from. -/
def paths (c : Compiled) (root : Entity) : List String :=
  ((c.owners root).flatMap pathsOf).map (root.name ++ "/" ++ ·)

/-- The definitions of a document, those of each entity together. -/
def definitionGroups (doc : Json) : List (List Json) :=
  ((doc.within? ["spec", "resources"]).toList.map ownDefinitions) ++
    (EntityKind.all.flatMap (definitionsOf doc)).map fun o => o :: ownDefinitions o

variable {g : EntityGraph} {context : CompileContext} {c : Compiled} {root : Entity}

theorem ShowsGraph.collection (h : c.ShowsGraph g context root) (k : EntityKind) :
    List.Forall₂ (fun e o => e.kind = k ∧ ∃ id, c.resolved.graph.entity? id = some e ∧
        Defines ⟨c.resolved, context⟩ root id e o)
      (c.collectedEntities root k) (definitionsOf c.document k) := by
  unfold collectedEntities
  split
  · rename_i collected
    refine forall₂_filterMap ((h.collects.collected k collected).defines.imp ?_)
    rintro id o ⟨e, found, kind, made⟩
    exact ⟨e, entity_ok.mp found, kind, id, entity_ok.mp found,
      definition_ok h.collects.rooted found made⟩
  · rename_i other
    rw [h.collects.others k other]
    exact .nil

theorem collected_inner (k k' : EntityKind) (h : k' ∈ collectionsOf k) :
    k'.isRoot = false ∧ k' ≠ .mixin := by
  have all : ∀ k ∈ EntityKind.all, ∀ k' ∈ collectionsOf k, k'.isRoot = false ∧ k' ≠ .mixin := by
    decide
  exact all k (EntityKind.mem_all k) k' h

theorem ShowsGraph.mem_collected (h : c.ShowsGraph g context root) {k : EntityKind} {e : Entity}
    (mem : e ∈ c.collectedEntities root k) : e.kind = k ∧ e.kind.isRoot = false ∧
      e.kind ≠ .mixin ∧ ∃ id, c.resolved.graph.entity? id = some e := by
  obtain ⟨o, -, kind, id, found, -⟩ := mem_forall₂ (h.collection k) e mem
  unfold collectedEntities at mem
  split at mem
  · rename_i collected
    obtain ⟨inner, concrete⟩ := collected_inner _ _ collected
    rw [kind]
    exact ⟨rfl, inner, concrete, id, found⟩
  · cases mem

theorem ShowsGraph.carries (h : c.ShowsGraph g context root) :
    List.Forall₂ (Carries root) (c.owners root) (definitionGroups c.document) := by
  obtain ⟨j, place, shown⟩ := h.resources
  rw [definitionGroups, place]
  refine .cons (shown.carries_own h.isRoot) (List.forall₂_map_right_iff.mpr ?_)
  refine forall₂_flatMap fun k _ => ?_
  have inner : ∀ e ∈ c.collectedEntities root k, e.kind.isRoot = false :=
    fun e mem => (h.mem_collected mem).2.1
  refine ((List.forall₂_and_left _ _).mpr ⟨inner, h.collection k⟩).imp ?_
  rintro e o ⟨inner, -, id, -, defines⟩
  exact defines.carries inner

theorem ShowsGraph.owners_apart (h : c.ShowsGraph g context root) :
    (c.owners root).Pairwise fun a b => a.key ≠ b.key := by
  refine List.pairwise_cons.mpr ⟨fun e mem same => ?_, List.pairwise_flatMap.mpr ⟨fun k _ => ?_, ?_⟩⟩
  · obtain ⟨k, -, mem⟩ := List.mem_flatMap.mp mem
    have kind : root.kind = e.kind := congrArg EntityKey.kind same
    have inner := (h.mem_collected mem).2.1
    rw [← kind, h.isRoot] at inner
    cases inner
  · have names : List.Forall₂ (· = ·) ((c.collectedEntities root k).map fun e => some e.name)
        ((definitionsOf c.document k).map (Json.text? "name")) :=
      List.forall₂_map_left_iff.mpr (List.forall₂_map_right_iff.mpr
        ((h.collection k).imp fun e o ⟨_, _, _, defines⟩ => defines.name.symm))
    have distinct := h.collects.distinct k
    rw [List.forall₂_eq_eq_eq] at names
    rw [← names] at distinct
    exact (List.pairwise_map.mp distinct).imp fun apart same =>
      apart (congrArg (fun key => some key.name) same)
  · have kinds : EntityKind.all.Nodup := by decide
    refine kinds.imp fun {k k'} apart a mem b mem' same => apart ?_
    rw [← (h.mem_collected mem).1, ← (h.mem_collected mem').1]
    exact congrArg EntityKey.kind same

theorem ShowsGraph.owner_named (h : c.ShowsGraph g context root) (valid : g.validate = .ok ())
    (made : ∀ d ∈ g.declared, d.entity.Made) : ∀ e ∈ c.owners root, e.Named ∧
      e.actions.Each fun k a => a.kind = Entity.actionKind e.kind.schema k := by
  have each : ∀ e, e.kind ≠ .mixin → (∃ id, c.resolved.graph.entity? id = some e) → e.Named ∧
      e.actions.Each fun k a => a.kind = Entity.actionKind e.kind.schema k := by
    rintro e concrete ⟨id, found⟩
    obtain ⟨d, declared, rfl⟩ := h.declared found
    exact ⟨(made d declared).named, Entity.validate_actions concrete (forM_ok valid d declared)⟩
  refine List.forall_mem_cons.mpr ⟨each root h.root_concrete ⟨_, h.rooted⟩, fun e mem => ?_⟩
  obtain ⟨k, -, mem⟩ := List.mem_flatMap.mp mem
  obtain ⟨-, -, concrete, known⟩ := h.mem_collected mem
  exact each e concrete known

/-- A document in which identifiers tell definitions apart, and tell the same thing the same. -/
structure Identified (c : Compiled) (root : Entity) : Prop where
  owned : (c.owners root).length = (definitionGroups c.document).length
  carried : ∀ ds ∈ definitionGroups c.document, ∀ d ∈ ds, (d.text? "uuid").isSome = true
  within : ∀ ds ∈ definitionGroups c.document, (ds.map (Json.text? "uuid")).Nodup
  across : ((c.owners root).zip (definitionGroups c.document)).Pairwise fun a b =>
    Nested a.1 b.1 ∨ ∀ d ∈ a.2, ∀ d' ∈ b.2, d.text? "uuid" ≠ d'.text? "uuid"
  references : ∀ j j', c.Reference j → c.Reference j' → j.text? "kind" = j'.text? "kind" →
    j.text? "name" = j'.text? "name" → j = j'
  entities : ∀ j, c.Reference j → ∀ k, ∀ d ∈ definitionsOf c.document k,
    j.text? "kind" = some k.refKind → j.text? "name" = d.text? "name" →
      j.text? "uuid" = d.text? "uuid"
  tasks : ∀ o ∈ entityObjects c.document, ∀ r ∈ runbooksIn o, ∀ j ∈ r.objects,
    j.text? "kind" = some "app_task" → ∀ d ∈ r.items "task_definition_list",
      j.text? "name" = d.text? "name" → j.text? "uuid" = d.text? "uuid"

theorem refTo_congr {a b : Entity} (kind : a.kind = b.kind) (name : a.name = b.name) :
    refTo root a = refTo root b := by
  rw [refTo, refTo, entityPath, entityPath, kind, name]

theorem refTo_of_texts {a b : Entity}
    (kind : (refTo root a).text? "kind" = (refTo root b).text? "kind")
    (name : (refTo root a).text? "name" = (refTo root b).text? "name") :
    refTo root a = refTo root b :=
  refTo_congr (refKind_inj (Option.some.inj kind)) (Option.some.inj name)

theorem defines_texts {p : Payload} {e : Entity} {id : EntityId} {d : Json}
    (h : Defines p root id e d) : d.text? "name" = (refTo root e).text? "name" ∧
      d.text? "uuid" = (refTo root e).text? "uuid" :=
  ⟨h.name, h.uuid⟩

theorem ShowsGraph.entities (h : c.ShowsGraph g context root) {j : Json} (reference : c.Reference j)
    {k : EntityKind} {d : Json} (definition : d ∈ definitionsOf c.document k)
    (kind : j.text? "kind" = some k.refKind) (name : j.text? "name" = d.text? "name") :
    j.text? "uuid" = d.text? "uuid" := by
  obtain ⟨id, known, e, found, rfl⟩ := h.reference_reachable reference
  obtain ⟨e', -, rfl, id', -, defines⟩ := mem_forall₂ (h.collection k).flip d definition
  obtain ⟨name', uuid⟩ := defines_texts defines
  rw [uuid, refTo_of_texts kind (name.trans name')]

theorem task_uuid {s : RunbookScope} (shaped : Shaped s.action) (free : Unreserved s.entity s.action)
    {j d : Json} (mem : j ∈ (shownRunbook s root).objects) (kind : j.text? "kind" = some "app_task")
    (listed : d ∈ (shownRunbook s root).items "task_definition_list")
    (name : j.text? "name" = d.text? "name") : j.text? "uuid" = d.text? "uuid" := by
  obtain ⟨declared, built⟩ := shaped.tree
  have free : s.mainName ∉ s.action.tree.allNodes.map TaskNode.name := free
  rcases references_shownRunbook built j mem kind with rfl | ⟨x, known, rfl⟩ <;>
    rcases List.mem_cons.mp listed with rfl | listed
  · rfl
  · obtain ⟨n, node, rfl⟩ := List.mem_map.mp listed
    have same : s.mainName = n.name := Option.some.inj name
    exact (free (same ▸ List.mem_map_of_mem node)).elim
  · have same : x = s.mainName := Option.some.inj name
    exact (free (same ▸ known)).elim
  · obtain ⟨n, -, rfl⟩ := List.mem_map.mp listed
    obtain rfl : x = n.name := Option.some.inj name
    rfl

theorem ShowsGraph.tasks (h : c.ShowsGraph g context root) (made : ∀ d ∈ g.declared, d.entity.Made)
    {o r j d : Json} (object : o ∈ entityObjects c.document) (runbook : r ∈ runbooksIn o)
    (mem : j ∈ r.objects) (kind : j.text? "kind" = some "app_task")
    (listed : d ∈ r.items "task_definition_list") (name : j.text? "name" = d.text? "name") :
    j.text? "uuid" = d.text? "uuid" := by
  obtain ⟨id, -, e, found, shown⟩ := h.objects o object
  rw [shown.runbooks] at runbook
  obtain ⟨a, inside, rfl⟩ := List.mem_map.mp runbook
  obtain ⟨d', declared, rfl⟩ := h.declared found
  exact task_uuid (s := ⟨⟨c.resolved, context⟩, id, d'.entity, a⟩)
    (actionsOf_shaped (made d' declared).named a inside) (shown.unreserved a inside) mem kind listed name

theorem ShowsGraph.identified (h : c.ShowsGraph g context root) (valid : g.validate = .ok ())
    (made : ∀ d ∈ g.declared, d.entity.Made)
    (injective : Set.InjOn (Uuid.ofName payloadSpace) {x | x ∈ c.paths root}) :
    c.Identified root := by
  have named := h.owner_named valid made
  have carries := h.carries
  -- All paths of all owners are among those that identifiers tell apart.
  have same_path : ∀ e ∈ c.owners root, ∀ e' ∈ c.owners root, ∀ q ∈ pathsOf e, ∀ q' ∈ pathsOf e',
      (identifierAt root.name q).text = (identifierAt root.name q').text → q = q' :=
    fun e mem e' mem' q inside q' inside' => identifierAt_text_inj injective
      (List.mem_flatMap.mpr ⟨e, mem, inside⟩) (List.mem_flatMap.mpr ⟨e', mem', inside'⟩)
  refine ⟨carries.length_eq, fun ds mem d inside => ?_, fun ds mem => ?_, ?_, ?_,
    fun j reference k d => h.entities reference,
    fun o object r runbook j mem kind d => h.tasks made object runbook mem kind⟩
  · obtain ⟨e, -, owned⟩ := mem_forall₂ carries.flip ds mem
    obtain ⟨q, -, uuid⟩ := Carries.path owned inside
    rw [uuid, Option.isSome_some]
  · obtain ⟨e, owner, owned⟩ := mem_forall₂ carries.flip ds mem
    rw [owned]
    refine (pathsOf_nodup (named e owner).1 (named e owner).2).map_on fun q mem q' mem' same => ?_
    exact same_path e owner e owner q mem q' mem' (Option.some.inj same)
  · refine pairwise_zip carries h.owners_apart fun a mem b mem' ds ds' owned owned' apart => ?_
    refine or_iff_not_imp_left.mpr fun flat d inside d' inside' same => ?_
    obtain ⟨q, path, uuid⟩ := owned.path inside
    obtain ⟨q', path', uuid'⟩ := owned'.path inside'
    rw [uuid, uuid'] at same
    exact pathsOf_apart apart flat q path q' path'
      (same_path a mem b mem' q path q' path' (Option.some.inj same))
  · intro j j' reference reference' kind name
    obtain ⟨-, -, e, -, rfl⟩ := h.reference_reachable reference
    obtain ⟨-, -, e', -, rfl⟩ := h.reference_reachable reference'
    exact refTo_of_texts kind name

/-- Identifiers tell all definitions apart but those of nested entities. -/
theorem compile_identified (h : compile g context = .ok c)
    (made : ∀ d ∈ g.declared, d.entity.Made) :
    ∃ root, c.resolved.graph.entity? c.resolved.root = some root ∧
      (Set.InjOn (Uuid.ofName payloadSpace) {x | x ∈ c.paths root} → c.Identified root) := by
  obtain ⟨root, shows⟩ := showsGraph h
  exact ⟨root, shows.rooted, shows.identified (compile_ok h).1 made⟩

theorem runningOn_made : ∀ d ∈ (runningOn .endpoint).declared, d.entity.Made := by
  have tree : TaskTree.Built
      [.leaf { name := "hello", target := some (.named ⟨.endpoint, "web"⟩) } (.exec { text := "ls" })]
      ["hello"] :=
    ⟨0, "run", [.step
      { name := "hello"
        target := some (.named ⟨.endpoint, "web"⟩)
        work := .exec { text := "ls" } }], rfl, rfl⟩
  have run : Action.Made { name := "run", tree := _ } := ⟨⟨[], rfl⟩, _, tree⟩
  have web : Entity.Made { kind := .endpoint, name := "web" } :=
    .build (d := { kind := .endpoint, name := "web" }) nofun nofun rfl
  have runbook := Entity.Made.build (d := { kind := .runbook, name := "Ops", actions := [_] })
    nofun (List.forall_mem_singleton.mpr run) rfl
  exact List.forall_mem_cons.mpr ⟨web, List.forall_mem_singleton.mpr runbook⟩

theorem compile_identified_endpoint : ∃ c root, compile (runningOn .endpoint) {} = .ok c ∧
    c.resolved.graph.entity? c.resolved.root = some root ∧ c.Identified root := by
  obtain ⟨c, compiled, injective⟩ := ok_of_test (x := compile (runningOn .endpoint) {})
    (P := fun c => ∀ e ∈ c.resolved.graph.entity? c.resolved.root, ∀ x ∈ c.paths e, ∀ y ∈ c.paths e,
      Uuid.ofName payloadSpace x = Uuid.ofName payloadSpace y → x = y) (by decide +kernel)
  obtain ⟨root, rooted, identified⟩ := compile_identified compiled runningOn_made
  exact ⟨c, root, compiled, rooted, identified fun x mem y mem' same =>
    injective root rooted x mem y mem' same⟩

/-- A substrate whose name is the path of another one's variable. -/
def shadowed : EntityGraph :=
  let ip : Variable := { (default : Variable) with name := "IP" }
  let vm : Entity :=
    { kind := .substrate, name := "VM", vars := (∅ : OrderedMap Variable).insert "IP" ip }
  let other : Entity := { kind := .substrate, name := "VM/variable/IP" }
  let lab : Entity :=
    { kind := .environment, name := "Lab"
      references := (∅ : OrderedMap (List Ref)).insert "substrates" [.named vm.key, .named other.key] }
  { declared := [⟨vm, 1⟩, ⟨other, 1⟩, ⟨lab, 0⟩], root := some 2 }

theorem shadowed_not_apart : ∃ c root, compile shadowed {} = .ok c ∧
    c.resolved.graph.entity? c.resolved.root = some root ∧
    (∀ d ∈ shadowed.declared, d.entity.Made) ∧
    Set.InjOn (Uuid.ofName payloadSpace) {x | x ∈ c.paths root} ∧
    ¬(definitionGroups c.document).Pairwise fun a b =>
      ∀ d ∈ a, ∀ d' ∈ b, d.text? "uuid" ≠ d'.text? "uuid" := by
  obtain ⟨c, compiled, injective, same⟩ := ok_of_test (x := compile shadowed {})
    (P := fun c => (∀ e ∈ c.resolved.graph.entity? c.resolved.root, ∀ x ∈ c.paths e,
      ∀ y ∈ c.paths e, Uuid.ofName payloadSpace x = Uuid.ofName payloadSpace y → x = y) ∧
      ¬(definitionGroups c.document).Pairwise fun a b =>
        ∀ d ∈ a, ∀ d' ∈ b, d.text? "uuid" ≠ d'.text? "uuid") (by decide +kernel)
  obtain ⟨root, shows⟩ := showsGraph compiled
  refine ⟨c, root, compiled, shows.rooted, ?_, fun x mem y mem' same =>
    injective root shows.rooted x mem y mem' same, same⟩
  have vm := Entity.Made.build
    (d := { kind := .substrate, name := "VM", vars := [{ (default : Variable) with name := "IP" }] })
    nofun nofun rfl
  have other := Entity.Made.build (d := { kind := .substrate, name := "VM/variable/IP" })
    nofun nofun rfl
  have lab := Entity.Made.build
    (d :=
      { kind := .environment, name := "Lab"
        references := (∅ : OrderedMap (List Ref)).insert "substrates"
          [.named ⟨.substrate, "VM"⟩, .named ⟨.substrate, "VM/variable/IP"⟩] })
    nofun nofun rfl
  simp only [shadowed, List.forall_mem_cons]
  exact ⟨vm, other, lab, nofun⟩

end Blueprint.Compiled
