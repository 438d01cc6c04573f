import Blueprint.Proofs.Editable.Extract
import Blueprint.Proofs.Payload.Actions
import Blueprint.Proofs.Payload.Fields
import Blueprint.Proofs.Payload.Identifiers

/-!
# Names in the payload

A path selects the items of a list by their names. The names in a list of the payload differ, except
that a user action may be listed under the name of a system action.
-/

namespace Blueprint

namespace Payload

variable {p : Payload} {root e : Entity} {id : EntityId} {o : Json}

/-- Items that all have a name, and no two of them the same. -/
structure Distinct (items : List Json) : Prop where
  named : ∀ j ∈ items, (j.text? "name").isSome = true
  apart : (items.map (Json.text? "name")).Nodup

/-- The items that a selector with this key matches. -/
def selected (items : List Json) (key : String) : List Json :=
  items.filter fun j => j.text? "name" == some key

theorem length_selected (items : List Json) (key : String) :
    (selected items key).length = (items.map (Json.text? "name")).count (some key) := by
  rw [selected, List.count, List.countP_map, List.countP_eq_length_filter]
  rfl

theorem Distinct.selected_le_one {items : List Json} (h : Distinct items) (key : String) :
    (selected items key).length ≤ 1 := by
  rw [length_selected]
  exact List.nodup_iff_count_le_one.mp h.apart (some key)

theorem distinct_of_selected {items : List Json}
    (named : ∀ j ∈ items, (j.text? "name").isSome = true)
    (once : ∀ key, (selected items key).length ≤ 1) : Distinct items := by
  refine ⟨named, List.nodup_iff_count_le_one.mpr fun name => ?_⟩
  cases name with
  | some key => exact length_selected items key ▸ once key
  | none =>
    have absent : none ∉ items.map (Json.text? "name") := by
      intro mem
      obtain ⟨j, inside, nameless⟩ := List.mem_map.mp mem
      have named := named j inside
      rw [nameless] at named
      cases named
    rw [List.count_eq_zero.mpr absent]
    exact Nat.zero_le 1

theorem Distinct.nil : Distinct [] := ⟨nofun, List.nodup_nil⟩

theorem distinct_map {α : Type} {f : α → Json} (name : α → String)
    (names : ∀ x, (f x).text? "name" = some (name x)) {xs : List α} :
    Distinct (xs.map f) ↔ (xs.map name).Nodup := by
  have same : (xs.map f).map (Json.text? "name") = (xs.map name).map some := by
    rw [List.map_map, List.map_map]
    exact List.map_congr_left fun x _ => names x
  have injective : Function.Injective (some : String → Option String) := fun _ _ => Option.some.inj
  rw [← List.nodup_map_iff injective, ← same]
  refine ⟨Distinct.apart, fun apart => ⟨List.forall_mem_map.mpr fun x _ => ?_, apart⟩⟩
  rw [names]
  rfl

/-! ### Lists of an object -/

def runbookLists (r : Json) : List (List Json) :=
  r.items "task_definition_list" :: r.items "variable_list" ::
    (r.items "task_definition_list").map (Json.items "variable_list")

/-- The lists of an entity's object but for its actions. -/
def objectLists (o : Json) : List (List Json) :=
  o.items "variable_list" :: (runbooksIn o).flatMap runbookLists

theorem runbookLists_distinct {s : RunbookScope} (shaped : Shaped s.action)
    (free : Unreserved s.entity s.action) : ∀ l ∈ runbookLists (shownRunbook s root), Distinct l := by
  obtain ⟨declared, built⟩ := shaped.tree
  refine List.forall_mem_cons.mpr ⟨⟨?_, taskNames_nodup built free⟩,
    List.forall_mem_cons.mpr ⟨?_, ?_⟩⟩
  · rw [tasks_shownRunbook]
    exact List.forall_mem_cons.mpr ⟨rfl, List.forall_mem_map.mpr fun _ _ => rfl⟩
  · rw [vars_shownRunbook]
    exact (distinct_map Variable.name fun _ => rfl).mpr shaped.vars
  · have main : (shownMain root (s.taskId root) s.mainName (s.ownedAt root "dag") s.action.tree
        (s.targetEntity? s.defaultTarget?)).items "variable_list" = [] := by
      simp [shownMain, Json.asArray?]
    have others : ∀ n, (s.shown root n).items "variable_list" = [] := by
      simp [RunbookScope.shown, shownTask, Json.asArray?]
    rw [tasks_shownRunbook, List.map_cons, main, List.map_map]
    refine List.forall_mem_cons.mpr ⟨.nil, List.forall_mem_map.mpr fun n _ => ?_⟩
    rw [Function.comp_apply, others]
    exact .nil

theorem Shown.lists_distinct (h : Shown p root id e o) (named : e.Named) :
    ∀ l ∈ objectLists o, Distinct l := by
  refine List.forall_mem_cons.mpr ⟨?_, fun l mem => ?_⟩
  · rw [h.vars]
    exact (distinct_map Variable.name fun _ => rfl).mpr (varsOf_names named)
  · obtain ⟨r, runbook, mem⟩ := List.mem_flatMap.mp mem
    rw [h.runbooks] at runbook
    obtain ⟨a, listed, rfl⟩ := List.mem_map.mp runbook
    exact runbookLists_distinct (s := ⟨p, id, e, a⟩) (actionsOf_shaped named a listed)
      (h.unreserved a listed) l mem

theorem Shown.actions_distinct_iff (h : Shown p root id e o) (named : e.Named)
    (kinds : e.actions.Each fun k a => a.kind = Entity.actionKind e.kind.schema k) :
    Distinct (o.items "action_list") ↔ ∀ a ∈ e.actions.values, ¬Shadowed e a := by
  rw [h.actions, ← listed_distinct_iff named kinds]
  exact distinct_map (fun a : Action × String => a.2) fun _ => rfl

theorem Shown.actions_named (h : Shown p root id e o) :
    ∀ j ∈ o.items "action_list", (j.text? "name").isSome = true := by
  rw [h.actions]
  exact List.forall_mem_map.mpr fun _ _ => rfl

/-! ### Lists of an editable entry -/

/-- The entries of the editables in a document. -/
def editableEntries (doc : Json) : List Json :=
  match doc.get? "runtime_editables" with
  | some (.obj sections) => sections.flatMap fun s => s.2.asArray?.getD []
  | _ => []

/-- The lists of an editable entry but for its actions. -/
def entryLists (x : Json) : List (List Json) :=
  x.items "variable_list" :: (x.items "action_list").map (Json.items "variable_list")

open EditableTree

theorem variableFields_distinct {base : String} {vs : List Variable}
    (distinct : (vs.map (·.name)).Nodup) :
    Distinct ((variableFields base vs).map EditableField.toJson) := by
  refine (distinct_map EditableField.name fun _ => rfl).mpr ?_
  rw [variableFields, List.map_map]
  exact distinct.sublist (List.filter_sublist.map _)

theorem entryLists_distinct (named : e.Named) (base : String) :
    ∀ l ∈ entryLists (entry base e).toJson, Distinct l := by
  have actions : (entry base e).toJson.items "action_list" =
      (actionEntries base e).map EditableAction.toJson := rfl
  refine List.forall_mem_cons.mpr ⟨?_, ?_⟩
  · exact variableFields_distinct (names_of_namedVars named.vars ▸ e.vars.nodup)
  · rw [actions, List.map_map]
    refine List.forall_mem_map.mpr fun action listed => ?_
    obtain ⟨a, mem, shown⟩ := List.mem_filterMap.mp listed
    dsimp only at shown
    split at shown
    · cases shown
    · obtain ⟨own, inside, rfl⟩ := List.mem_map.mp mem
      obtain rfl := Option.some.inj shown
      exact variableFields_distinct (shaped_of_named (named.actions own inside)).vars

theorem entryActions_distinct {base : String}
    (distinct : (e.actions.values.map fun a => e.kind.actionWireName a.name).Nodup) :
    Distinct ((entry base e).toJson.items "action_list") := by
  have actions : (entry base e).toJson.items "action_list" =
      (actionEntries base e).map EditableAction.toJson := rfl
  rw [actions]
  refine (distinct_map EditableAction.name fun _ => rfl).mpr
    (distinct.sublist (filterMap_sublist (fun a action shown => ?_) _))
  dsimp only at shown
  split at shown
  · cases shown
  · rw [← Option.some.inj shown]

end Payload

namespace Compiled

open Payload

variable {g : EntityGraph} {context : CompileContext} {c : Compiled} {root e : Entity}

/-- The lists of a document with items that paths select, but for those of actions. -/
def namedLists (doc : Json) : List (List Json) :=
  EntityKind.all.map (definitionsOf doc) ++ (entityObjects doc).flatMap objectLists ++
    (editableEntries doc).flatMap entryLists

def actionLists (doc : Json) : List (List Json) :=
  (entityObjects doc).map (Json.items "action_list")

theorem ShowsGraph.owned (h : c.ShowsGraph g context root) :
    List.Forall₂ (fun e o => ∃ id, Shown ⟨c.resolved, context⟩ root id e o) (c.owners root)
      (entityObjects c.document) := by
  obtain ⟨j, place, shown⟩ := h.resources
  rw [entityObjects, place]
  exact .cons ⟨_, shown⟩ (forall₂_flatMap fun k _ =>
    (h.collection k).imp fun e o ⟨_, id, _, defines⟩ => ⟨id, defines.shown⟩)

theorem mem_editableEntries {doc x : Json} {t : EditableTree}
    (there : doc.get? "runtime_editables" = some t.toJson) (mem : x ∈ editableEntries doc) :
    ∃ s ∈ t.sections.entries, ∃ entity ∈ s.2, x = entity.toJson := by
  unfold editableEntries at mem
  rw [there] at mem
  obtain ⟨_, listed, mem⟩ := List.mem_flatMap.mp mem
  obtain ⟨s, known, rfl⟩ := List.mem_map.mp listed
  obtain ⟨entity, inside, rfl⟩ := List.mem_map.mp mem
  exact ⟨s, known, entity, inside, rfl⟩

/-- An entry of the editables, and what it was made of. -/
def Entered (c : Compiled) (e : Entity) (x : Json) : Prop :=
  ∃ id ∈ c.resolved.reachable, c.resolved.graph.entity? id = some e ∧
    ∃ base, x = (EditableTree.entry base e).toJson

theorem entered (h : compile g context = .ok c) :
    ∀ x ∈ editableEntries c.document, ∃ e, c.Entered e x := by
  obtain ⟨-, -, -, extracted, rendered⟩ := compile_passes h
  obtain ⟨-, -, -, there, -⟩ := document_parts rendered
  intro x mem
  obtain ⟨s, known, entity, inside, rfl⟩ := mem_editableEntries there mem
  obtain ⟨id, met, e, found, rfl⟩ := EditableTree.extract_ok extracted s known entity inside
  exact ⟨e, id, met, found, _, rfl⟩

theorem ShowsGraph.lists_distinct (shows : c.ShowsGraph g context root)
    (h : compile g context = .ok c) (made : ∀ d ∈ g.declared, d.entity.Made) :
    List.Forall₂ (fun e o => (∀ l ∈ objectLists o, Distinct l) ∧
      (Distinct (o.items "action_list") ↔ ∀ a ∈ e.actions.values, ¬Shadowed e a))
      (c.owners root) (entityObjects c.document) :=
  ((List.forall₂_and_left _ _).mpr ⟨shows.owner_named (compile_ok h).1 made, shows.owned⟩).imp
    fun _ _ ⟨⟨named, kinds⟩, _, shown⟩ =>
      ⟨shown.lists_distinct named, shown.actions_distinct_iff named kinds⟩

theorem ShowsGraph.entries_distinct (shows : c.ShowsGraph g context root)
    (h : compile g context = .ok c) (made : ∀ d ∈ g.declared, d.entity.Made) :
    ∀ x ∈ editableEntries c.document, ∃ e, c.Entered e x ∧ (∀ l ∈ entryLists x, Distinct l) ∧
      ((∀ a ∈ e.actions.values, ¬Shadowed e a) → Distinct (x.items "action_list")) := by
  intro x mem
  obtain ⟨e, entered⟩ := entered h x mem
  obtain ⟨id, -, found, base, rfl⟩ := id entered
  obtain ⟨d, declared, rfl⟩ := shows.declared found
  have named := (made d declared).named
  exact ⟨d.entity, entered, entryLists_distinct named base, fun clear =>
    entryActions_distinct (wireNames_nodup named (forM_ok (compile_ok h).1 d declared) clear)⟩

theorem ShowsGraph.namedLists_distinct (shows : c.ShowsGraph g context root)
    (h : compile g context = .ok c) (made : ∀ d ∈ g.declared, d.entity.Made) :
    ∀ l ∈ namedLists c.document, Distinct l := by
  refine List.forall_mem_append.mpr ⟨List.forall_mem_append.mpr ⟨?_, ?_⟩, ?_⟩
  · refine List.forall_mem_map.mpr fun k _ => ⟨fun o mem => ?_, shows.collects.distinct k⟩
    obtain ⟨e, -, -, id, -, defines⟩ := mem_forall₂ (shows.collection k).flip o mem
    rw [defines.name]
    rfl
  · intro l mem
    obtain ⟨o, object, inside⟩ := List.mem_flatMap.mp mem
    obtain ⟨e, -, distinct, -⟩ := mem_forall₂ (shows.lists_distinct h made).flip o object
    exact distinct l inside
  · intro l mem
    obtain ⟨x, entry, inside⟩ := List.mem_flatMap.mp mem
    obtain ⟨e, -, distinct, -⟩ := shows.entries_distinct h made x entry
    exact distinct l inside

/-- In a compiled document the names of all lists differ but for those of actions. In the list of an
entity the actions have different names just if no user action takes the name of a system action;
so the names of all lists differ, and every selector matches one item at most, just if no entity that
the document shows has such an action. -/
theorem compile_names (h : compile g context = .ok c) (made : ∀ d ∈ g.declared, d.entity.Made) :
    ∃ root, c.resolved.graph.entity? c.resolved.root = some root ∧
      (∀ l ∈ namedLists c.document, Distinct l ∧ ∀ key, (selected l key).length ≤ 1) ∧
      List.Forall₂ (fun e o => Distinct (o.items "action_list") ↔
        ∀ a ∈ e.actions.values, ¬Shadowed e a) (c.owners root) (entityObjects c.document) ∧
      (∀ x ∈ editableEntries c.document, ∃ e, c.Entered e x ∧
        ((∀ a ∈ e.actions.values, ¬Shadowed e a) → Distinct (x.items "action_list"))) ∧
      ((∀ l ∈ namedLists c.document ++ actionLists c.document, Distinct l) ↔
        ∀ e ∈ c.owners root, ∀ a ∈ e.actions.values, ¬Shadowed e a) ∧
      ((∀ l ∈ namedLists c.document ++ actionLists c.document,
          ∀ key, (selected l key).length ≤ 1) ↔
        ∀ e ∈ c.owners root, ∀ a ∈ e.actions.values, ¬Shadowed e a) := by
  obtain ⟨root, shows⟩ := showsGraph h
  have owned := shows.lists_distinct h made
  have lists := shows.namedLists_distinct h made
  have all_distinct : (∀ l ∈ namedLists c.document ++ actionLists c.document, Distinct l) ↔
      ∀ e ∈ c.owners root, ∀ a ∈ e.actions.values, ¬Shadowed e a := by
    constructor
    · intro all e owner
      obtain ⟨o, object, -, distinct⟩ := mem_forall₂ owned e owner
      exact distinct.mp (all _ (List.mem_append_right _ (List.mem_map_of_mem object)))
    · intro clear
      refine List.forall_mem_append.mpr ⟨lists, List.forall_mem_map.mpr fun o object => ?_⟩
      obtain ⟨e, owner, -, distinct⟩ := mem_forall₂ owned.flip o object
      exact distinct.mpr (clear e owner)
  have named : ∀ l ∈ namedLists c.document ++ actionLists c.document,
      ∀ j ∈ l, (j.text? "name").isSome = true := by
    refine List.forall_mem_append.mpr
      ⟨fun l mem => (lists l mem).named, List.forall_mem_map.mpr fun o object => ?_⟩
    obtain ⟨e, -, id, shown⟩ := mem_forall₂ shows.owned.flip o object
    exact shown.actions_named
  refine ⟨root, shows.rooted, fun l mem => ⟨lists l mem, (lists l mem).selected_le_one⟩,
    owned.imp fun _ _ both => both.2, fun x mem => ?_, all_distinct, ?_⟩
  · obtain ⟨e, entered, -, distinct⟩ := shows.entries_distinct h made x mem
    exact ⟨e, entered, distinct⟩
  · rw [← all_distinct]
    exact ⟨fun once l mem => distinct_of_selected (named l mem) (once l mem),
      fun distinct l mem => (distinct l mem).selected_le_one⟩

/-- A blueprint with one service, which has a user action of this name. -/
def serving (user : String) : EntityGraph :=
  let refs (slots : List (String × List Ref)) : OrderedMap (List Ref) := .ofList slots
  let web : Entity :=
    { kind := .service, name := "web"
      actions := (∅ : OrderedMap Action).insert user { name := user, tree := [] } }
  let pkg : Entity :=
    { kind := .package, name := "pkg", references := refs [("services", [.named web.key])] }
  let vm : Entity := { kind := .substrate, name := "vm" }
  let dep : Entity :=
    { kind := .deployment, name := "dep"
      references := refs [("packages", [.named pkg.key]), ("substrate", [.named vm.key])] }
  let prod : Entity :=
    { kind := .profile, name := "prod", references := refs [("deployments", [.named dep.key])] }
  let app : Entity :=
    { kind := .blueprint, name := "App", references := refs [("profiles", [.named prod.key])] }
  { declared := [⟨web, 1⟩, ⟨pkg, 1⟩, ⟨vm, 1⟩, ⟨dep, 1⟩, ⟨prod, 1⟩, ⟨app, 0⟩], root := some 5 }

theorem serving_made : ∀ user ∈ ["deploy", "action_create"],
    ∀ d ∈ (serving user).declared, d.entity.Made := by
  have action : ∀ user, Action.Made { name := user, tree := [] } := fun user =>
    ⟨⟨[], rfl⟩, [], 0, user, [], rfl, rfl⟩
  have web : ∀ user ∈ ["deploy", "action_create"], Entity.Made
      { kind := .service, name := "web"
        actions := (∅ : OrderedMap Action).insert user { name := user, tree := [] } } := by
    simp only [List.forall_mem_cons]
    exact ⟨.build (d := { kind := .service, name := "web", actions := [_] }) (List.forall_mem_nil _)
        (List.forall_mem_singleton.mpr (action "deploy")) rfl,
      .build (d := { kind := .service, name := "web", actions := [_] }) (List.forall_mem_nil _)
        (List.forall_mem_singleton.mpr (action "action_create")) rfl, List.forall_mem_nil _⟩
  have pkg := Entity.Made.build
    (d :=
      { kind := .package, name := "pkg"
        references := .ofList [("services", [.named ⟨.service, "web"⟩])] })
    (List.forall_mem_nil _) (List.forall_mem_nil _) rfl
  have vm := Entity.Made.build (d := { kind := .substrate, name := "vm" })
    (List.forall_mem_nil _) (List.forall_mem_nil _) rfl
  have dep := Entity.Made.build
    (d :=
      { kind := .deployment, name := "dep"
        references := .ofList
          [("packages", [.named ⟨.package, "pkg"⟩]), ("substrate", [.named ⟨.substrate, "vm"⟩])] })
    (List.forall_mem_nil _) (List.forall_mem_nil _) rfl
  have prod := Entity.Made.build
    (d :=
      { kind := .profile, name := "prod"
        references := .ofList [("deployments", [.named ⟨.deployment, "dep"⟩])] })
    (List.forall_mem_nil _) (List.forall_mem_nil _) rfl
  have app := Entity.Made.build
    (d :=
      { kind := .blueprint, name := "App"
        references := .ofList [("profiles", [.named ⟨.profile, "prod"⟩])] })
    (List.forall_mem_nil _) (List.forall_mem_nil _) rfl
  intro user mem
  simp only [serving, List.forall_mem_cons]
  exact ⟨web user mem, pkg, vm, dep, prod, app, List.forall_mem_nil _⟩

theorem compile_names_serving : ∃ c, compile (serving "deploy") {} = .ok c ∧
    (∀ d ∈ (serving "deploy").declared, d.entity.Made) ∧
    ∀ l ∈ namedLists c.document ++ actionLists c.document,
      Distinct l ∧ ∀ key, (selected l key).length ≤ 1 := by
  obtain ⟨c, compiled, clear⟩ := ok_of_test (x := compile (serving "deploy") {})
    (P := fun c => ∀ root ∈ c.resolved.graph.entity? c.resolved.root, ∀ e ∈ c.owners root,
      ∀ a ∈ e.actions.values, ¬Shadowed e a) (by decide +kernel)
  have made := serving_made "deploy" (by decide)
  obtain ⟨root, rooted, -, -, -, distinct, once⟩ := compile_names compiled made
  exact ⟨c, compiled, made, fun l mem =>
    ⟨distinct.mpr (clear root rooted) l mem, once.mpr (clear root rooted) l mem⟩⟩

theorem names_repeated_serving : ∃ c, compile (serving "action_create") {} = .ok c ∧
    (∀ d ∈ (serving "action_create").declared, d.entity.Made) ∧
    ∃ l ∈ actionLists c.document, ¬(l.map (Json.text? "name")).Nodup := by
  obtain ⟨c, compiled, repeated⟩ := ok_of_test (x := compile (serving "action_create") {})
    (P := fun c => ∃ l ∈ actionLists c.document, ¬(l.map (Json.text? "name")).Nodup)
    (by decide +kernel)
  exact ⟨c, compiled, serving_made "action_create" (by decide), repeated⟩

end Compiled

end Blueprint
