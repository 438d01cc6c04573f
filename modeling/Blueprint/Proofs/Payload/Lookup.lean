import Blueprint.Proofs.Editable.Extract
import Blueprint.Proofs.Payload.Actions
import Blueprint.Proofs.Payload.Fields
import Blueprint.Proofs.Payload.References

/-!
# Looking up what an entity shows

The path of an entity with a place of its own leads to its object, and from there the paths of its
variables, attributes and runbooks lead to what the entity says.
-/

namespace Blueprint

open Selector (Closed Enclosed Flat Word closed_keyed keyed)
open EditableTree (attrFields place resourcesPath variableFields)

namespace Payload

/-! ### Paths of objects -/

theorem resources_split : resourcesPath = "spec" ++ "." ++ "resources" := by decide

theorem closed_resources : Closed resourcesPath :=
  resources_split ▸ Closed.point (Word.closed (by decide)) (Word.closed (by decide))

theorem lookup?_resources (doc : Json) :
    doc.lookup? resourcesPath = doc.within? ["spec", "resources"] := by
  rw [resources_split, Json.lookup?_words (by decide) (by decide)]
  simp only [Json.within?, List.foldlM_cons, List.foldlM_nil]
  cases doc.get? "spec" with
  | none => rfl
  | some j => exact (Option.bind_fun_some _).symm

theorem collection_word {k : EntityKind} {name : String} (named : k.collection? = some name) :
    Word name := by
  have all : ∀ k ∈ EntityKind.all, ∀ name ∈ k.collection?, Word name := by decide +kernel
  exact all k (EntityKind.mem_all k) name named

/-- The definitions of a kind are searched by name. -/
theorem lookup?_definition {k : EntityKind} {name key : String} (named : k.collection? = some name)
    (enclosed : Enclosed key) (doc : Json) :
    doc.lookup? (resourcesPath ++ "." ++ keyed name key) =
      (definitionsOf doc k).find? fun o => o.text? "name" == some key := by
  rw [Json.lookup?_point closed_resources, lookup?_resources, definitionsOf, named]
  cases doc.within? ["spec", "resources"] with
  | none => rfl
  | some j => exact Json.lookup?_keyed (collection_word named) enclosed j

/-! ### Paths inside an object -/

variable {p : Payload} {root e : Entity} {id : EntityId} {o doc : Json} {base : String}

theorem lookup?_variable (closed : Closed base) {name : String} (enclosed : Enclosed name) :
    doc.lookup? (base ++ "." ++ keyed "variable_list" name ++ ".value") =
      (doc.lookup? base).bind fun o =>
        ((o.items "variable_list").find? fun v => v.text? "name" == some name).bind
          (Json.get? "value") := by
  have word : Word "variable_list" := by decide
  rw [show (".value" : String) = "." ++ "value" by decide, ← String.append_assoc,
    Json.lookup?_point (closed.point (closed_keyed word enclosed)), Json.lookup?_point closed,
    Option.bind_assoc]
  refine congrArg _ (funext fun o => ?_)
  rw [Json.lookup?_keyed word enclosed]
  exact congrArg _ (funext fun v => Json.lookup?_word (by decide) v)

/-- A list that shows variables holds the value of each. -/
theorem find?_shownVar {vs : List Variable} {ids : Variable → Uuid}
    (distinct : (vs.map (·.name)).Nodup) {v : Variable} (mem : v ∈ vs) :
    (((vs.map fun v => v.payload (ids v)).find? fun i => i.text? "name" == some v.name).bind
      (Json.get? "value")) = some (.str v.wireValue) := by
  have names : (vs.map fun v => v.payload (ids v)).map (Json.text? "name") =
      (vs.map (·.name)).map some := by
    rw [List.map_map, List.map_map]
    rfl
  have apart : ((vs.map fun v => v.payload (ids v)).map (Json.text? "name")).Nodup := by
    rw [names]
    exact distinct.map fun _ _ same => Option.some.inj same
  rw [find?_of_nodup (k := some v.name) apart (List.mem_map_of_mem mem) rfl]
  rfl

/-- The paths of runbooks with places of their own. -/
def fieldPaths : List String := ["options.install_runbook", "options.uninstall_runbook", "runbook"]

theorem field_closed {k : EntityKind} {sa : SystemAction} (mem : sa ∈ k.schema.systemActions)
    {path : String} (placed : sa.placement = .field path) : Closed path := by
  have all : ∀ k ∈ EntityKind.all, ∀ sa ∈ k.schema.systemActions,
      sa.placement = .actionList ∨ ∃ path ∈ fieldPaths, sa.placement = .field path := by decide
  have closed : ∀ path ∈ fieldPaths, Closed path := by decide
  rcases all k (EntityKind.mem_all k) sa mem with listed | ⟨path', known, same⟩
  · rw [placed] at listed
    cases listed
  · rw [placed] at same
    cases same
    exact closed path known

/-- The path of the runbook of an action leads to it from the object of its entity. -/
theorem lookup?_runbook (shown : Shown p root id e o) (keeps : Keeps p root id e o)
    (concrete : e.kind ≠ .mixin) (named : e.Named) (valid : e.validate = .ok ()) {a : Action}
    (mem : a ∈ e.actions.values) (clear : ¬Shadowed e a) :
    Closed (e.kind.actionPath a.name) ∧
      o.lookup? (e.kind.actionPath a.name) = some (shownRunbook ⟨p, id, e, a⟩ root) := by
  rcases action_place concrete named valid mem with ⟨sa, system, placed, same⟩ |
    ⟨elsewhere, word, listed⟩
  · have known : sa ∈ e.kind.schema.systemActions := List.mem_of_find?_eq_some system
    have there := keeps.placed sa known _ placed
    rw [same] at there
    exact ⟨field_closed known placed, there⟩
  · have list : Word "action_list" := by decide
    have closed := closed_keyed list word.enclosed
    rw [actionPath_listed e.kind a.name elsewhere]
    refine ⟨closed.point (Word.closed (by decide)), ?_⟩
    have first := find?_listed named (Entity.validate_actions concrete valid) listed clear
    have found : (((listedOf e).map fun a => shownAction ⟨p, id, e, a.1⟩ root a.2).find? fun o =>
        o.text? "name" == some (e.kind.actionWireName a.name)) =
        some (shownAction ⟨p, id, e, a⟩ root (e.kind.actionWireName a.name)) := by
      rw [List.find?_map]
      exact congrArg (Option.map _) first
    rw [Json.lookup?_point closed, Json.lookup?_keyed list word.enclosed, shown.actions, found,
      Option.bind_some, Json.lookup?_word (by decide)]
    rfl

/-! ### Attributes -/

theorem attr?_of_mem {key : String} (mem : key ∈ e.kind.schema.attrKeys) :
    e.attr? key = some (e.attr key) := by
  have default : (e.kind.schema.attrDefault? key).isSome = true :=
    (Entries.get?_isSome_iff key _).mpr mem
  have found : (e.attr? key).isSome = true := by
    rw [Entity.attr?]
    cases e.attrs.get? key with
    | none => exact default
    | some j => rfl
  obtain ⟨j, same⟩ := Option.isSome_iff_exists.mp found
  rw [Entity.attr, same, Option.getD_some]

/-- A path into an attribute leads to the same in the object as in the entity. -/
theorem Keeps.lookup?_attr (keeps : Keeps p root id e o) {path : String}
    (top : (Text.split '.' path).headD "" ∈ e.kind.schema.attrKeys) (flat : Flat path)
    (plain : ¬Adjusted p.resolved id e (Text.split '.' path)) :
    o.lookup? path = e.attrValue? path := by
  rw [Json.lookup?_flat flat, Entity.attrValue?]
  cases parts : Text.split '.' path with
  | nil => exact (Text.splitChars_ne_nil '.' path.toList (List.map_eq_nil_iff.mp parts)).elim
  | cons first rest =>
    rw [parts] at top plain
    have known : first ∈ e.kind.schema.attrKeys := top
    rw [keeps.attrs first known rest plain]
    dsimp only
    rw [attr?_of_mem known, Option.bind_some]

end Payload

namespace Compiled

open Payload

variable {g : EntityGraph} {context : CompileContext} {c : Compiled} {root e : Entity}
  {id : EntityId} {o : Json}

/-! ### Objects of entities -/

/-- The objects that show an entity: for the root the resources, for others the definitions with
their name. -/
def objectsOf (c : Compiled) (id : EntityId) (e : Entity) : List Json :=
  if id = c.resolved.root then (c.document.within? ["spec", "resources"]).toList
  else (definitionsOf c.document e.kind).filter fun o => o.text? "name" == some e.name

/-- An entity that is the root, or of a kind that the root brings along. -/
def Brought (c : Compiled) (root : Entity) (id : EntityId) (e : Entity) : Prop :=
  id = c.resolved.root ∨ e.kind ∈ collectionsOf root.kind

instance (c : Compiled) (root : Entity) (id : EntityId) (e : Entity) :
    Decidable (c.Brought root id e) :=
  inferInstanceAs (Decidable (_ ∨ _))

/-- The one object of an entity in a collection is its definition. -/
theorem ShowsGraph.object_of_collected (shows : c.ShowsGraph g context root)
    (met : id ∈ c.resolved.reachable) (found : c.resolved.graph.entity? id = some e)
    (inner : id ≠ c.resolved.root) (collected : e.kind ∈ collectionsOf root.kind) :
    ∃ o, c.objectsOf id e = [o] ∧ (Payload.mk c.resolved context).definition id = .ok o := by
  have all := shows.collects.collected _ collected
  obtain ⟨o, listed, e', found', -, defined⟩ :=
    mem_forall₂ all.defines id (mem_reachableOfKind.mpr ⟨met, e, found, rfl⟩)
  obtain rfl : e' = e := Except.ok.inj (found'.symm.trans (entity_ok.mpr found))
  have defines := definition_ok shows.collects.rooted found' defined
  refine ⟨o, ?_, defined⟩
  rw [objectsOf, if_neg inner, filter_of_nodup all.distinct listed defines.name]

theorem ShowsGraph.object_of_brought (shows : c.ShowsGraph g context root)
    (rendered : (Payload.mk c.resolved context).document c.editables = .ok c.document)
    (met : id ∈ c.resolved.reachable) (found : c.resolved.graph.entity? id = some e)
    (brought : c.Brought root id e) : ∃ o, c.objectsOf id e = [o] ∧
      Shown ⟨c.resolved, context⟩ root id e o ∧ Keeps ⟨c.resolved, context⟩ root id e o := by
  have rooted := shows.collects.rooted
  by_cases inner : id = c.resolved.root
  · subst inner
    obtain rfl : root = e := Option.some.inj (shows.rooted.symm.trans found)
    obtain ⟨j, made, there, -⟩ := document_parts rendered
    refine ⟨j, ?_, (resources_ok rooted made).1.shown, resources_keeps rooted made⟩
    rw [objectsOf, if_pos rfl, there]
    rfl
  · obtain ⟨o, only, defined⟩ :=
      shows.object_of_collected met found inner (brought.resolve_left inner)
    have found' : (Payload.mk c.resolved context).entity id = .ok e := entity_ok.mpr found
    exact ⟨o, only, (definition_ok rooted found' defined).shown,
      definition_keeps rooted found' defined⟩

theorem ShowsGraph.objectsOf_other (shows : c.ShowsGraph g context root)
    (other : ¬c.Brought root id e) : c.objectsOf id e = [] := by
  obtain ⟨inner, apart⟩ := not_or.mp other
  rw [objectsOf, if_neg inner, shows.collects.others _ apart]
  rfl

/-! ### Paths of entities -/

/-- The path of an entity in the payload. -/
def base (c : Compiled) (id : EntityId) (e : Entity) : String := (place e (id == c.resolved.root)).2

/-- An entity that a path can lead to: the root, or one of a collection. -/
def Addressed (c : Compiled) (id : EntityId) (e : Entity) : Prop :=
  id = c.resolved.root ∨ e.kind.collection?.isSome = true ∧ Enclosed e.name

theorem base_root : c.base c.resolved.root e = resourcesPath := by
  rw [base, beq_self_eq_true, place]
  split <;> rfl

theorem base_inner (inner : id ≠ c.resolved.root) {name : String}
    (named : e.kind.collection? = some name) :
    c.base id e = resourcesPath ++ "." ++ keyed name e.name := by
  rw [base, place, named, beq_eq_false_iff_ne.mpr inner]
  rfl

theorem Addressed.closed (h : c.Addressed id e) : Selector.Closed (c.base id e) := by
  by_cases inner : id = c.resolved.root
  · rw [inner, base_root]
    exact closed_resources
  · rcases h with same | ⟨collected, enclosed⟩
    · exact (inner same).elim
    · obtain ⟨name, named⟩ := Option.isSome_iff_exists.mp collected
      rw [base_inner inner named]
      exact closed_resources.point (closed_keyed (collection_word named) enclosed)

theorem Addressed.concrete (h : c.Addressed id e) (shows : c.ShowsGraph g context root)
    (found : c.resolved.graph.entity? id = some e) : e.kind ≠ .mixin := by
  rcases h with rfl | ⟨collected, -⟩
  · obtain rfl : root = e := Option.some.inj (shows.rooted.symm.trans found)
    exact shows.root_concrete
  · intro mixin
    rw [mixin] at collected
    cases collected

/-- The path of an entity leads to its first object. -/
theorem lookup?_base (addressed : c.Addressed id e) :
    c.document.lookup? (c.base id e) = (c.objectsOf id e).head? := by
  by_cases inner : id = c.resolved.root
  · rw [inner, base_root, lookup?_resources, objectsOf, if_pos rfl]
    cases c.document.within? ["spec", "resources"] <;> rfl
  · obtain ⟨collected, enclosed⟩ := addressed.resolve_left inner
    obtain ⟨name, named⟩ := Option.isSome_iff_exists.mp collected
    rw [base_inner inner named, lookup?_definition named enclosed, objectsOf, if_neg inner,
      List.head?_filter]

/-- What stands at the path of an entity is its object. -/
theorem ShowsGraph.object_at (shows : c.ShowsGraph g context root)
    (rendered : (Payload.mk c.resolved context).document c.editables = .ok c.document)
    (met : id ∈ c.resolved.reachable) (found : c.resolved.graph.entity? id = some e)
    (addressed : c.Addressed id e) (at_ : c.document.lookup? (c.base id e) = some o) :
    Shown ⟨c.resolved, context⟩ root id e o ∧ Keeps ⟨c.resolved, context⟩ root id e o := by
  rw [lookup?_base addressed] at at_
  by_cases brought : c.Brought root id e
  · obtain ⟨o', only, shown⟩ := shows.object_of_brought rendered met found brought
    rw [only] at at_
    obtain rfl : o' = o := Option.some.inj at_
    exact shown
  · rw [shows.objectsOf_other brought] at at_
    cases at_

end Compiled

end Blueprint
