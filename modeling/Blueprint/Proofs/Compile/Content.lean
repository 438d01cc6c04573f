import Blueprint.Proofs.Compile.Editables
import Blueprint.Proofs.Compile.Names
import Blueprint.Proofs.Compile.Strict
import Blueprint.Proofs.Entity.Override

/-!
# Content that a document keeps

All kinds of entities may declare variables. The objects of credentials and endpoints have no list
for them, and some entities have no object at all. What these declare is lost, and nothing else.
-/

namespace Blueprint

namespace Payload

variable {p : Payload} {root e : Entity} {id : EntityId} {o : Json} {a : Action}

/-! ### Variables -/

/-- A list that shows these variables, each once and in their order. -/
structure ListsVars (vs : List Variable) (items : List Json) : Prop where
  shown : ∃ ids : Variable → Uuid, items = vs.map fun v => v.payload (ids v)
  distinct : Distinct items

theorem listsVars_map {vs : List Variable} (ids : Variable → Uuid)
    (distinct : (vs.map Variable.name).Nodup) : ListsVars vs (vs.map fun v => v.payload (ids v)) :=
  ⟨⟨ids, rfl⟩, (distinct_map Variable.name fun _ => rfl).mpr distinct⟩

theorem listsVars_nil {vs : List Variable} : ListsVars vs [] ↔ vs = [] := by
  constructor
  · rintro ⟨⟨ids, same⟩, -⟩
    exact List.map_eq_nil_iff.mp same.symm
  · rintro rfl
    exact ⟨⟨fun _ => default, rfl⟩, .nil⟩

/-- Kinds whose objects list no variables. -/
def bareKinds : List EntityKind := [.credential, .endpoint]

theorem varsOf_bare (bare : e.kind ∈ bareKinds) : varsOf e = [] := by
  simp only [bareKinds, List.mem_cons, List.not_mem_nil, or_false] at bare
  rcases bare with kind | kind <;> rw [varsOf, kind]

theorem varsOf_full (full : e.kind ∉ bareKinds) : varsOf e = e.vars.values := by
  simp only [bareKinds, List.mem_cons, List.not_mem_nil, or_false, not_or] at full
  unfold varsOf
  split
  · exact (full.1 ‹_›).elim
  · exact (full.2 ‹_›).elim
  · rfl

theorem Shown.listsVars (h : Shown p root id e o) (named : e.Named) (full : e.kind ∉ bareKinds) :
    ListsVars e.vars.values (o.items "variable_list") := by
  have distinct := varsOf_names named
  rw [h.vars]
  rw [varsOf_full full] at distinct ⊢
  exact listsVars_map _ distinct

/-! ### Actions -/

/-- The place for the runbook of a system action that is not listed. -/
def fieldPath? (k : EntityKind) (name : String) : Option String :=
  match k.schema.systemAction? name with
  | some { placement := .field path, .. } => some path
  | _ => none

/-- What the items of an action list differ in. Their names may agree, since a user action may have
that of a system action. -/
def itemLabel (j : Json) : Option String × Option String := (j.text? "name", j.text? "type")

/-- The runbooks of an action: that in its own place, and those of the items with its label. -/
def runbooksOf (e : Entity) (a : Action) (o : Json) : List Json :=
  ((fieldPath? e.kind a.name).bind o.lookup?).toList ++
    ((o.items "action_list").filter fun j =>
      itemLabel j == (some (e.kind.actionWireName a.name), some a.kind.name)).filterMap
        (Json.get? "runbook")

/-- A runbook with the tasks of an action after the main one, and with its variables. -/
structure ShowsRunbook (e : Entity) (a : Action) (r : Json) : Prop where
  tasks : (r.items "task_definition_list").map (Json.text? "name") =
    ((e.name ++ "_" ++ a.name ++ "_dag") :: a.tree.allNodes.map TaskNode.name).map some
  vars : ListsVars a.vars.values (r.items "variable_list")

theorem showsRunbook (shaped : Shaped a) : ShowsRunbook e a (shownRunbook ⟨p, id, e, a⟩ root) where
  tasks := taskNames_shownRunbook
  vars := vars_shownRunbook ▸ listsVars_map _ shaped.vars

theorem fieldPath?_field {k : EntityKind} {name path : String} {sa : SystemAction}
    (system : k.schema.systemAction? name = some sa) (placed : sa.placement = .field path) :
    fieldPath? k name = some path := by
  obtain ⟨_, _, _⟩ := sa
  cases placed
  rw [fieldPath?, system]

theorem fieldPath?_listed {k : EntityKind} {name : String}
    (listed : ∀ sa, k.schema.systemAction? name = some sa → sa.placement = .actionList) :
    fieldPath? k name = none := by
  unfold fieldPath?
  split
  · rename_i system
    cases listed _ system
  · rfl

theorem labels_distinct (shown : Shown p root id e o) (named : e.Named)
    (kinds : e.actions.Each fun k a => a.kind = Entity.actionKind e.kind.schema k) :
    ((o.items "action_list").map itemLabel).Nodup := by
  have labels : (o.items "action_list").map itemLabel =
      ((listedOf e).map fun a => (a.2, a.1.kind)).map fun x => (some x.1, some x.2.name) := by
    rw [shown.actions, List.map_map, List.map_map]
    rfl
  have injective : Function.Injective fun x : String × ActionKind => (some x.1, some x.2.name) := by
    rintro ⟨name, kind⟩ ⟨name', kind'⟩ same
    obtain ⟨names, types⟩ := Prod.mk.inj same
    obtain rfl := Option.some.inj names
    cases kind <;> cases kind' <;> simp_all [ActionKind.name]
  rw [labels]
  exact (listed_apart named kinds).map injective

/-- An object shows every action of its entity once. -/
theorem runbooksOf_shown (shown : Shown p root id e o) (keeps : Keeps p root id e o)
    (concrete : e.kind ≠ .mixin) (named : e.Named) (valid : e.validate = .ok ())
    (mem : a ∈ e.actions.values) : runbooksOf e a o = [shownRunbook ⟨p, id, e, a⟩ root] := by
  rcases action_place concrete named valid mem with ⟨sa, system, placed, same⟩ |
    ⟨elsewhere, -, listed⟩
  · have known : sa ∈ e.kind.schema.systemActions := List.mem_of_find?_eq_some system
    have there := keeps.placed sa known _ placed
    -- Nothing is listed besides, so no item has the label of this action.
    have none : listedOf e = [] := listedOf_placed concrete valid known (by rw [placed]; nofun)
    rw [runbooksOf, fieldPath?_field system placed, Option.bind_some, there, same, shown.actions,
      none]
    rfl
  · have distinct := labels_distinct shown named (Entity.validate_actions concrete valid)
    have item : shownAction ⟨p, id, e, a⟩ root (e.kind.actionWireName a.name) ∈
        o.items "action_list" := by
      rw [shown.actions]
      exact List.mem_map.mpr ⟨_, listed, rfl⟩
    have only := filter_of_nodup (k := (some (e.kind.actionWireName a.name), some a.kind.name))
      distinct item rfl
    rw [runbooksOf, fieldPath?_listed elsewhere, only]
    rfl

theorem no_actions (bare : e.kind ∈ bareKinds) (named : e.Named) (valid : e.validate = .ok ()) :
    e.actions.values = [] := by
  have kinds : ∀ k ∈ bareKinds, k ≠ .mixin ∧ k ∉ listingKinds ∧ k.schema.systemActions = [] := by
    decide
  obtain ⟨concrete, other, none⟩ := kinds _ bare
  refine List.eq_nil_iff_forall_not_mem.mpr fun a mem => ?_
  rcases action_place concrete named valid mem with ⟨sa, system, -⟩ | ⟨-, -, listed⟩
  · have known : sa ∈ e.kind.schema.systemActions := List.mem_of_find?_eq_some system
    rw [none] at known
    cases known
  · rw [listedOf_other other] at listed
    cases listed

end Payload

namespace Compiled

open Payload

variable {g : EntityGraph} {context : CompileContext} {c : Compiled} {root e : Entity}
  {id : EntityId} {o : Json}

/-! ### Entities of a document -/

/-- An entity all of whose variables and actions are in the document: the variables in the list of
its object, and every action with one runbook that lists its variables. -/
structure Kept (c : Compiled) (id : EntityId) (e : Entity) : Prop where
  vars : ListsVars e.vars.values ((c.objectsOf id e).flatMap (Json.items "variable_list"))
  actions : ∀ a ∈ e.actions.values, ∃ r, (c.objectsOf id e).flatMap (runbooksOf e a) = [r] ∧
    ShowsRunbook e a r

theorem ShowsGraph.concrete (shows : c.ShowsGraph g context root)
    (found : c.resolved.graph.entity? id = some e) (brought : c.Brought root id e) :
    e.kind ≠ .mixin := by
  rcases brought with rfl | collected
  · obtain rfl : root = e := Option.some.inj (shows.rooted.symm.trans found)
    exact shows.root_concrete
  · exact (collected_inner _ _ collected).2

theorem kept_of_object (only : c.objectsOf id e = [o])
    (shown : Shown ⟨c.resolved, context⟩ root id e o)
    (keeps : Keeps ⟨c.resolved, context⟩ root id e o)
    (concrete : e.kind ≠ .mixin) (named : e.Named) (valid : e.validate = .ok ()) :
    c.Kept id e ↔ e.kind ∈ bareKinds → e.vars.values = [] := by
  constructor
  · intro kept bare
    have vars := kept.vars
    rw [only, List.flatMap_singleton, shown.vars, varsOf_bare bare] at vars
    exact listsVars_nil.mp vars
  · intro clear
    refine ⟨?_, fun a mem => ?_⟩
    · rw [only, List.flatMap_singleton]
      by_cases bare : e.kind ∈ bareKinds
      · rw [shown.vars, varsOf_bare bare]
        exact listsVars_nil.mpr (clear bare)
      · exact shown.listsVars named bare
    · obtain ⟨entry, inside, rfl⟩ := List.mem_map.mp mem
      refine ⟨shownRunbook ⟨⟨c.resolved, context⟩, id, e, entry.2⟩ root, ?_,
        showsRunbook (shaped_of_named (named.actions entry inside))⟩
      rw [only, List.flatMap_singleton, runbooksOf_shown shown keeps concrete named valid mem]

theorem kept_of_none (none : c.objectsOf id e = []) :
    c.Kept id e ↔ e.vars.values = [] ∧ e.actions.values = [] := by
  constructor
  · intro kept
    have vars := kept.vars
    rw [none] at vars
    refine ⟨listsVars_nil.mp vars, List.eq_nil_iff_forall_not_mem.mpr fun a mem => ?_⟩
    obtain ⟨r, only, -⟩ := kept.actions a mem
    rw [none] at only
    cases only
  · rintro ⟨vars, actions⟩
    refine ⟨?_, ?_⟩
    · rw [none]
      exact listsVars_nil.mpr vars
    · rw [actions]
      nofun

theorem ShowsGraph.kept_iff (shows : c.ShowsGraph g context root) (h : compile g context = .ok c)
    (made : ∀ d ∈ g.declared, d.entity.Made) (met : id ∈ c.resolved.reachable)
    (found : c.resolved.graph.entity? id = some e) : c.Kept id e ↔
      e.vars.values = [] ∧ e.actions.values = [] ∨
        c.Brought root id e ∧ e.kind ∉ bareKinds := by
  obtain ⟨valid, -, -, -, rendered⟩ := compile_passes h
  obtain ⟨d, declared, rfl⟩ := shows.declared found
  have named := (made d declared).named
  have valid := forM_ok valid d declared
  by_cases brought : c.Brought root id d.entity
  · obtain ⟨o, only, shown, keeps⟩ := shows.object_of_brought rendered met found brought
    rw [kept_of_object only shown keeps (shows.concrete found brought) named valid]
    by_cases bare : d.entity.kind ∈ bareKinds
    · simp [bare, no_actions bare named valid]
    · simp [bare, brought]
  · rw [kept_of_none (shows.objectsOf_other brought)]
    simp [brought]

/-- A compiled document has one object for every entity that the root brings along. An entity with
variables or actions keeps them just if it has an object and is no credential and no endpoint. -/
theorem compile_keeps (h : compile g context = .ok c) (made : ∀ d ∈ g.declared, d.entity.Made) :
    ∃ root, c.resolved.graph.entity? c.resolved.root = some root ∧
      ∀ id ∈ c.resolved.reachable, ∃ e, c.resolved.graph.entity? id = some e ∧
        (c.objectsOf id e).length = (if c.Brought root id e then 1 else 0) ∧
        (c.Kept id e ↔ e.vars.values = [] ∧ e.actions.values = [] ∨
          c.Brought root id e ∧ e.kind ∉ bareKinds) := by
  obtain ⟨root, shows⟩ := showsGraph h
  obtain ⟨-, resolved, rendered⟩ := compile_ok h
  have closed := ResolvedGraph.closed_of_resolveGraph (rooted_of_document resolved rendered) resolved
  refine ⟨root, shows.rooted, fun id met => ?_⟩
  obtain ⟨e, found⟩ := closed.declared id met
  refine ⟨e, found, ?_, shows.kept_iff h made met found⟩
  split
  · rename_i brought
    obtain ⟨o, only, -⟩ := shows.object_of_brought rendered met found brought
    rw [only]
    rfl
  · rename_i other
    rw [shows.objectsOf_other other]
    rfl

/-- Nothing is lost of a runbook with a port, which its action has too. -/
theorem compile_keeps_editing : ∃ c, compile editing {} = .ok c ∧
    (∀ d ∈ editing.declared, d.entity.Made) ∧
    ∀ id ∈ c.resolved.reachable, ∃ e, c.resolved.graph.entity? id = some e ∧ c.Kept id e := by
  obtain ⟨c, compiled, kinds⟩ := ok_of_test (x := compile editing {})
    (P := fun c => ∀ id ∈ c.resolved.reachable, ∀ e ∈ c.resolved.graph.entity? id,
      e.vars.values.isEmpty ∧ e.actions.values.isEmpty ∨
        id = c.resolved.root ∧ e.kind ∉ bareKinds) (by decide +kernel)
  obtain ⟨root, -, each⟩ := compile_keeps compiled editing_made
  refine ⟨c, compiled, editing_made, fun id met => ?_⟩
  obtain ⟨e, found, -, kept⟩ := each id met
  exact ⟨e, found, kept.mpr ((kinds id met e found).imp
    (And.imp List.isEmpty_iff.mp List.isEmpty_iff.mp) (And.imp_left .inl))⟩

/-- A runbook with a credential that has a variable. -/
def lending : EntityGraph :=
  let run : Action := { name := "run", kind := .system, tree := [] }
  let login : Entity :=
    { kind := .credential, name := "login"
      vars := (∅ : OrderedMap Variable).insert "X" (.plain "X" "1") }
  let ops : Entity :=
    { kind := .runbook, name := "Ops"
      references := (∅ : OrderedMap (List Ref)).insert "credentials" [.named login.key]
      actions := (∅ : OrderedMap Action).insert "run" run }
  { declared := [⟨login, 1⟩, ⟨ops, 0⟩], root := some 1 }

theorem lending_made : ∀ d ∈ lending.declared, d.entity.Made := by
  have run : Action.Made { name := "run", tree := [] } := ⟨⟨[], rfl⟩, [], 0, "run", [], rfl, rfl⟩
  have login := Entity.Made.build
    (d := { kind := .credential, name := "login", vars := [.plain "X" "1"] }) nofun nofun rfl
  have ops := Entity.Made.build
    (d :=
      { kind := .runbook, name := "Ops", actions := [_]
        references := (∅ : OrderedMap (List Ref)).insert "credentials"
          [.named ⟨.credential, "login"⟩] })
    nofun (List.forall_mem_singleton.mpr run) rfl
  exact List.forall_mem_cons.mpr ⟨login, List.forall_mem_singleton.mpr ops⟩

theorem variable_lost : ∃ c, compile lending {} = .ok c ∧
    (∀ d ∈ lending.declared, d.entity.Made) ∧
    ∃ id ∈ c.resolved.reachable, ∃ e, c.resolved.graph.entity? id = some e ∧ ¬c.Kept id e := by
  obtain ⟨c, compiled, met, e, found, lost⟩ := ok_of_test (x := compile lending {})
    (P := fun c => 0 ∈ c.resolved.reachable ∧ ∃ e ∈ c.resolved.graph.entity? 0,
      e.vars.values.length ≠ ((c.objectsOf 0 e).flatMap (Json.items "variable_list")).length)
    (by decide +kernel)
  refine ⟨c, compiled, lending_made, 0, met, e, found, fun kept => lost ?_⟩
  obtain ⟨ids, shown⟩ := kept.vars.shown
  rw [shown, List.length_map]

end Compiled

end Blueprint
