import Blueprint.Payload.Collection
import Blueprint.Proofs.Data.Maps
import Blueprint.Proofs.Data.Partners
import Blueprint.Proofs.Graph.Resolve
import Blueprint.Proofs.Json.Objects
import Blueprint.Proofs.Payload.Parts

/-!
# Objects of entities

What the object of an entity shows: its variables, its actions with their runbooks, and references
to what its slots are bound to.
-/

namespace Blueprint.Payload

/-! ### Views of an object -/

def runbooksIn (o : Json) : List Json :=
  (o.items "action_list").filterMap (Json.get? "runbook") ++ (o.get? "runbook").toList ++
    (o.within? ["options", "install_runbook"]).toList ++
    (o.within? ["options", "uninstall_runbook"]).toList

def referenceLists : List String :=
  ["depends_on_list", "service_local_reference_list", "package_local_reference_list",
    "deployment_local_reference_list"]

/-- The fields with one reference to an entity, or null. -/
def referenceFields : List String :=
  ["substrate_local_reference", "login_credential_local_reference",
    "default_credential_local_reference", "default_target_reference"]

/-- The references to entities in the fields of an entity. -/
def fieldRefs (o : Json) : List Json :=
  referenceLists.flatMap (Json.items · o) ++
    (referenceFields.filterMap (Json.get? · o)).filter fun j => !j.isNull

/-- The references to the entities that the tasks of an entity run on. -/
def targetsIn (o : Json) : List Json :=
  (runbooksIn o).flatMap fun r =>
    (r.items "task_definition_list").filterMap (Json.get? "target_any_local_reference")

/-! ### What an entity shows -/

def varsOf (e : Entity) : List Variable :=
  match e.kind with
  | .credential | .endpoint => []
  | _ => e.vars.values

/-- The actions that the object of an entity lists, each with its name there. -/
def listedOf (e : Entity) : List (Action × String) :=
  match e.kind with
  | .service | .package | .substrate | .deployment | .profile =>
    listedSystemActions e ++ userActions e
  | _ => []

def placedAt (e : Entity) (name : String) : Action := (e.actions.get? name).getD (stub name)

/-- The actions whose runbooks have places of their own. -/
def placedOf (e : Entity) : List Action :=
  match e.kind with
  | .package => [placedAt e "install", placedAt e "uninstall"]
  | .runbook => [placedAt e "run"]
  | _ => []

def actionsOf (e : Entity) : List Action := (listedOf e).map (·.1) ++ placedOf e

def shownAction (s : RunbookScope) (root : Entity) (wire : String) : Json :=
  .obj
    [("name", .str wire), ("description", .str s.action.description),
      ("uuid", .str (ownedAt root s.entity ("action/" ++ s.action.name)).text),
      ("type", .str s.action.kind.name), ("critical", .bool s.action.critical),
      ("runbook", shownRunbook s root)]

/-- No task of an action has the name of the main task. -/
def Unreserved (e : Entity) (a : Action) : Prop :=
  e.name ++ "_" ++ a.name ++ "_dag" ∉ a.tree.allNodes.map TaskNode.name

def SlotRef (p : Payload) (root : Entity) (id : EntityId) (j : Json) : Prop :=
  ∃ slot t e, t ∈ p.resolved.slot id slot ∧ p.entity t = .ok e ∧ j = refTo root e

/-- References to entities, one for each and in their order. -/
def RefersTo (p : Payload) (root : Entity) (ts : List EntityId) (js : List Json) : Prop :=
  List.Forall₂ (fun t j => ∃ e, p.entity t = .ok e ∧ j = refTo root e) ts js

/-- A reference to the first of some entities, or null where there is none. -/
inductive RefersToFirst (p : Payload) (root : Entity) : List EntityId → Json → Prop where
  | none : RefersToFirst p root [] .null
  | first {t : EntityId} {ts : List EntityId} {e : Entity} (found : p.entity t = .ok e) :
    RefersToFirst p root (t :: ts) (refTo root e)

/-- A field whose references to entities all come from slots. -/
def Bound (p : Payload) (root : Entity) (id : EntityId) (f : String × Json) : Prop :=
  (f.1 ∈ referenceLists → ∃ js, f.2 = .arr js ∧ ∀ j ∈ js, SlotRef p root id j) ∧
    (f.1 ∈ referenceFields → f.2 = .null ∨ SlotRef p root id f.2)

/-- An object that shows an entity. -/
structure Shown (p : Payload) (root : Entity) (id : EntityId) (e : Entity) (o : Json) : Prop where
  vars : o.items "variable_list" =
    (varsOf e).map fun v => v.payload (ownedAt root e ("variable/" ++ v.name))
  actions : o.items "action_list" =
    (listedOf e).map fun a => shownAction ⟨p, id, e, a.1⟩ root a.2
  runbooks : runbooksIn o = (actionsOf e).map fun a => shownRunbook ⟨p, id, e, a⟩ root
  unreserved : ∀ a ∈ actionsOf e, Unreserved e a
  references : ∀ j ∈ fieldRefs o, SlotRef p root id j

theorem fieldRefs_bound {p : Payload} {root : Entity} {id : EntityId}
    {fields : List (String × Json)} (bound : ∀ f ∈ fields, Bound p root id f) :
    ∀ j ∈ fieldRefs (.obj fields), SlotRef p root id j := by
  intro j mem
  rcases List.mem_append.mp mem with mem | mem
  · obtain ⟨key, list, mem⟩ := List.mem_flatMap.mp mem
    rw [Json.items, Json.get?] at mem
    cases found : Entries.get? key fields with
    | none => simp [found] at mem
    | some v =>
      obtain ⟨js, rfl, each⟩ := (bound _ (Entries.mem_of_get? found)).1 list
      rw [found] at mem
      exact each j mem
  · obtain ⟨mem, present⟩ := List.mem_filter.mp mem
    obtain ⟨key, single, found⟩ := List.mem_filterMap.mp mem
    rcases (bound _ (Entries.mem_of_get? found)).2 single with none | bound
    · simp only at none
      rw [none] at present
      cases present
    · exact bound

theorem bound_list {p : Payload} {root : Entity} {id : EntityId} {key : String} {js : List Json}
    (other : key ∉ referenceFields) (each : ∀ j ∈ js, SlotRef p root id j) :
    Bound p root id (key, .arr js) :=
  ⟨fun _ => ⟨js, rfl, each⟩, fun mem => (other mem).elim⟩

theorem bound_field {p : Payload} {root : Entity} {id : EntityId} {key : String} {j : Json}
    (other : key ∉ referenceLists) (h : j = .null ∨ SlotRef p root id j) : Bound p root id (key, j) :=
  ⟨fun mem => (other mem).elim, fun _ => h⟩

theorem bound_other {p : Payload} {root : Entity} {id : EntityId} {key : String} {j : Json}
    (h : key ∉ referenceLists ++ referenceFields) : Bound p root id (key, j) :=
  ⟨fun mem => (h (List.mem_append_left _ mem)).elim, fun mem => (h (List.mem_append_right _ mem)).elim⟩

def shownFields : List String :=
  ["variable_list", "action_list", "runbook", "options"] ++ referenceLists ++ referenceFields

theorem Shown.congr {p : Payload} {root : Entity} {id : EntityId} {e : Entity} {o o' : Json}
    (same : ∀ key ∈ shownFields, o.get? key = o'.get? key) (h : Shown p root id e o') :
    Shown p root id e o := by
  have items : ∀ key ∈ shownFields, o.items key = o'.items key := by
    intro key mem
    rw [Json.items, Json.items, same key mem]
  have within : ∀ k, o.within? ["options", k] = o'.within? ["options", k] := by
    intro k
    simp only [Json.within?, List.foldlM_cons, same "options" (by decide)]
  refine ⟨?_, ?_, ?_, h.unreserved, ?_⟩
  · rw [items _ (by decide)]
    exact h.vars
  · rw [items _ (by decide)]
    exact h.actions
  · rw [runbooksIn, items _ (by decide), same _ (by decide), within, within]
    exact h.runbooks
  · have lists : referenceLists.flatMap (Json.items · o) = referenceLists.flatMap (Json.items · o') :=
      List.flatMap_congr fun key mem => items key (by simp [shownFields, mem])
    have singles : referenceFields.filterMap (Json.get? · o) =
        referenceFields.filterMap (Json.get? · o') :=
      List.filterMap_congr fun key mem => same key (by simp [shownFields, mem])
    rw [fieldRefs, lists, singles]
    exact h.references

theorem get?_none {α : Type} {k : String} {fields : List (String × α)}
    (h : k ∉ Entries.keys fields) : Entries.get? k fields = none := by
  rwa [← Option.not_isSome_iff_eq_none, Entries.get?_isSome_iff]

theorem Shown.after {p : Payload} {root : Entity} {id : EntityId} {e : Entity}
    (front : List (String × Json)) {fields : List (String × Json)}
    (apart : ∀ key ∈ shownFields, key ∉ Entries.keys front) (h : Shown p root id e (.obj fields)) :
    Shown p root id e (.obj (front ++ fields)) :=
  h.congr fun key mem => by
    rw [Json.get?, Json.get?, Entries.get?_append, get?_none (apart key mem), Option.none_or]

/-! ### Parts of an object -/

section Parts

variable {p : Payload} {root e : Entity} {id : EntityId}
  (rooted : p.entity p.resolved.root = .ok root)

def shownBase (root e : Entity) : List (String × Json) :=
  [("name", .str e.name), ("description", .str e.description),
    ("uuid", .str (identifierAt root.name (entityPath e)).text)] ++ attrs e

def shownEnding (p : Payload) (root : Entity) (id : EntityId) (e : Entity) : List (String × Json) :=
  [("variable_list", .arr (e.vars.values.map fun v =>
      v.payload (ownedAt root e ("variable/" ++ v.name)))),
    ("action_list", .arr ((listedSystemActions e ++ userActions e).map fun a =>
      shownAction ⟨p, id, e, a.1⟩ root a.2))]

theorem shownFields_apart (k : EntityKind) :
    ∀ key ∈ shownFields, key ∉ ["name", "description", "uuid", "account_uuid"] ++ k.schema.attrKeys := by
  cases k <;> decide

theorem keys_attrs (e : Entity) : Entries.keys (attrs e) = e.kind.schema.attrKeys := by
  simp [Entries.keys, attrs, Function.comp_def]

include rooted

theorem baseFields_eq (e : Entity) : p.baseFields e = .ok (shownBase root e) := by
  rw [baseFields, identifier_eq rooted]
  rfl

theorem vars_eq (e : Entity) : p.vars e = .ok (.arr (e.vars.values.map fun v =>
    v.payload (ownedAt root e ("variable/" ++ v.name)))) := by
  rw [vars, variableList_eq rooted]
  rfl

theorem slotRefs_ok {slot : String} {j : Json} (h : p.slotRefs id slot = .ok j) :
    ∃ js, j = .arr js ∧ RefersTo p root (p.resolved.slot id slot) js := by
  obtain ⟨js, rendered, h⟩ := bind_ok h
  refine ⟨js, pure_ok h, List.Forall₂.imp (fun t j reference => ?_) (mapM_ok rendered)⟩
  exact localRef_ok rooted reference

theorem slotRef_ok {slot : String} {j : Json} (h : p.slotRef id slot = .ok j) :
    RefersToFirst p root (p.resolved.slot id slot) j := by
  unfold slotRef at h
  cases targets : p.resolved.slot id slot with
  | nil =>
    rw [targets] at h
    rw [pure_ok h]
    exact .none
  | cons t ts =>
    rw [targets] at h
    obtain ⟨e, found, rfl⟩ := localRef_ok rooted h
    exact .first found

omit rooted in
theorem RefersTo.slotRef {slot : String} {js : List Json}
    (refers : RefersTo p root (p.resolved.slot id slot) js) : ∀ j ∈ js, SlotRef p root id j := by
  intro j mem
  obtain ⟨t, bound, e, found, same⟩ := mem_forall₂ refers.flip j mem
  exact ⟨slot, t, e, bound, found, same⟩

omit rooted in
theorem RefersToFirst.slotRef {slot : String} {j : Json}
    (refers : RefersToFirst p root (p.resolved.slot id slot) j) :
    j = .null ∨ SlotRef p root id j := by
  generalize targets : p.resolved.slot id slot = ts at refers
  cases refers with
  | none => exact .inl rfl
  | first found => exact .inr ⟨slot, _, _, targets ▸ List.mem_cons_self, found, rfl⟩

theorem runbook_shown (found : p.entity id = .ok e) {a : Action} {j : Json}
    (h : p.runbook id a = .ok j) : j = shownRunbook ⟨p, id, e, a⟩ root ∧ Unreserved e a := by
  obtain ⟨e', root', found', rooted', free, same⟩ := runbook_ok h
  rw [found] at found'
  rw [rooted] at rooted'
  cases found'
  cases rooted'
  exact ⟨same, free⟩

theorem runbookFor_ok (found : p.entity id = .ok e) {name : String} {j : Json}
    (h : p.runbookFor id name = .ok j) :
    j = shownRunbook ⟨p, id, e, placedAt e name⟩ root ∧ Unreserved e (placedAt e name) := by
  unfold runbookFor at h
  rw [found] at h
  exact runbook_shown rooted found h

theorem action_ok (found : p.entity id = .ok e) {a : Action} {wire : String} {j : Json}
    (h : p.action id a wire = .ok j) :
    j = shownAction ⟨p, id, e, a⟩ root wire ∧ Unreserved e a := by
  unfold action at h
  rw [found] at h
  obtain ⟨_, ⟨⟩, h⟩ := bind_ok h
  rw [ownedId_eq rooted] at h
  obtain ⟨_, ⟨⟩, h⟩ := bind_ok h
  obtain ⟨r, rendered, h⟩ := bind_ok h
  obtain ⟨rfl, free⟩ := runbook_shown rooted found rendered
  exact ⟨pure_ok h, free⟩

theorem actionList_ok (found : p.entity id = .ok e) {j : Json} (h : p.actionList id = .ok j) :
    j = .arr ((listedSystemActions e ++ userActions e).map fun a =>
      shownAction ⟨p, id, e, a.1⟩ root a.2) ∧
    ∀ a ∈ listedSystemActions e ++ userActions e, Unreserved e a.1 := by
  unfold actionList at h
  rw [found] at h
  obtain ⟨_, ⟨⟩, h⟩ := bind_ok h
  obtain ⟨items, rendered, h⟩ := bind_ok h
  rw [pure_ok h, mapM_ok_eq (fun a _ j rendered => (action_ok rooted found rendered).1) rendered]
  refine ⟨rfl, fun a mem => ?_⟩
  obtain ⟨j, shown⟩ := mapM_ok_all rendered a mem
  exact (action_ok rooted found shown).2

theorem ending_ok (found : p.entity id = .ok e) {fields : List (String × Json)}
    (h : p.ending id e = .ok fields) : fields = shownEnding p root id e ∧
      ∀ a ∈ listedSystemActions e ++ userActions e, Unreserved e a.1 := by
  unfold ending at h
  rw [vars_eq rooted] at h
  obtain ⟨_, ⟨⟩, h⟩ := bind_ok h
  obtain ⟨actions, rendered, h⟩ := bind_ok h
  obtain ⟨rfl, free⟩ := actionList_ok rooted found rendered
  exact ⟨pure_ok h, free⟩

omit rooted in
theorem accountFields_ok {fields : List (String × Json)} (h : p.accountFields e = .ok fields) :
    ∀ key ∈ Entries.keys fields, key = "account_uuid" := by
  unfold accountFields at h
  split at h
  · obtain ⟨_, _, h⟩ := bind_ok h
    simp [pure_ok h, Entries.keys]
  · simp [pure_ok h, Entries.keys]

/-! ### Shapes of definitions -/

/-- An object with fields of its own between the base and the ending. -/
structure EndsAfter (p : Payload) (root : Entity) (id : EntityId) (e : Entity)
    (own : List (String × Json)) (o : Json) : Prop where
  free : ∀ a ∈ listedSystemActions e ++ userActions e, Unreserved e a.1
  object : o = .obj (shownBase root e ++ (own ++ shownEnding p root id e))

variable {o : Json}

theorem service_ok (found : p.entity id = .ok e) (h : p.service id e = .ok o) :
    ∃ dependsOn, RefersTo p root (p.resolved.slot id "depends_on") dependsOn ∧
      EndsAfter p root id e [("depends_on_list", .arr dependsOn)] o := by
  unfold service at h
  rw [baseFields_eq rooted] at h
  obtain ⟨_, ⟨⟩, h⟩ := bind_ok h
  obtain ⟨_, rendered, h⟩ := bind_ok h
  obtain ⟨dependsOn, rfl, refers⟩ := slotRefs_ok rooted rendered
  obtain ⟨_, rendered, h⟩ := bind_ok h
  obtain ⟨rfl, free⟩ := ending_ok rooted found rendered
  rw [List.append_assoc] at h
  exact ⟨dependsOn, refers, free, pure_ok h⟩

theorem deployment_ok (found : p.entity id = .ok e) (h : p.deployment id e = .ok o) :
    ∃ packages substrate dependsOn,
      RefersTo p root (p.resolved.slot id "packages") packages ∧
      RefersToFirst p root (p.resolved.slot id "substrate") substrate ∧
      RefersTo p root (p.resolved.slot id "depends_on") dependsOn ∧
      EndsAfter p root id e [("package_local_reference_list", .arr packages),
        ("substrate_local_reference", substrate), ("depends_on_list", .arr dependsOn)] o := by
  unfold deployment at h
  rw [baseFields_eq rooted] at h
  obtain ⟨_, ⟨⟩, h⟩ := bind_ok h
  obtain ⟨_, rendered, h⟩ := bind_ok h
  obtain ⟨packages, rfl, packagesRefer⟩ := slotRefs_ok rooted rendered
  obtain ⟨substrate, rendered, h⟩ := bind_ok h
  have substrateRefers := slotRef_ok rooted rendered
  obtain ⟨_, rendered, h⟩ := bind_ok h
  obtain ⟨dependsOn, rfl, dependsOnRefers⟩ := slotRefs_ok rooted rendered
  obtain ⟨_, rendered, h⟩ := bind_ok h
  obtain ⟨rfl, free⟩ := ending_ok rooted found rendered
  rw [List.append_assoc] at h
  exact ⟨packages, substrate, dependsOn, packagesRefer, substrateRefers, dependsOnRefers, free,
    pure_ok h⟩

theorem profile_ok (found : p.entity id = .ok e) (h : p.profile id e = .ok o) :
    ∃ environments deployments,
      RefersTo p root (p.resolved.slot id "deployments") deployments ∧
      EndsAfter p root id e [("environment_reference_list", .arr environments),
        ("deployment_local_reference_list", .arr deployments)] o := by
  unfold profile at h
  rw [baseFields_eq rooted] at h
  obtain ⟨_, ⟨⟩, h⟩ := bind_ok h
  obtain ⟨environments, -, h⟩ := bind_ok h
  obtain ⟨_, rendered, h⟩ := bind_ok h
  obtain ⟨deployments, rfl, refers⟩ := slotRefs_ok rooted rendered
  obtain ⟨_, rendered, h⟩ := bind_ok h
  obtain ⟨rfl, free⟩ := ending_ok rooted found rendered
  rw [List.append_assoc] at h
  exact ⟨environments, deployments, refers, free, pure_ok h⟩

theorem substrate_ok (found : p.entity id = .ok e) (h : p.substrate id e = .ok o) :
    ∃ account login, (∀ key ∈ Entries.keys account, key = "account_uuid") ∧
      RefersToFirst p root (p.resolved.slot id "credential") login ∧
      (∀ a ∈ listedSystemActions e ++ userActions e, Unreserved e a.1) ∧
      o = .obj ((if login.isNull then shownBase root e
        else (shownBase root e).map (withLogin login)) ++
          (account ++ shownEnding p root id e)) := by
  unfold substrate at h
  rw [baseFields_eq rooted] at h
  obtain ⟨_, ⟨⟩, h⟩ := bind_ok h
  obtain ⟨account, rendered, h⟩ := bind_ok h
  have keys := accountFields_ok rendered
  obtain ⟨login, rendered, h⟩ := bind_ok h
  have refers := slotRef_ok rooted rendered
  obtain ⟨_, rendered, h⟩ := bind_ok h
  obtain ⟨rfl, free⟩ := ending_ok rooted found rendered
  rw [List.append_assoc] at h
  exact ⟨account, login, keys, refers, free, pure_ok h⟩

/-- What a package shows after its base. -/
def packageFields (p : Payload) (root : Entity) (id : EntityId) (e : Entity)
    (services : List Json) : List (String × Json) :=
  [("service_local_reference_list", .arr services),
    ("variable_list", .arr (e.vars.values.map fun v =>
      v.payload (ownedAt root e ("variable/" ++ v.name)))),
    ("options", .obj
      [("install_runbook", shownRunbook ⟨p, id, e, placedAt e "install"⟩ root),
        ("uninstall_runbook", shownRunbook ⟨p, id, e, placedAt e "uninstall"⟩ root)]),
    ("action_list", .arr ((listedSystemActions e ++ userActions e).map fun a =>
      shownAction ⟨p, id, e, a.1⟩ root a.2))]

theorem package_ok (found : p.entity id = .ok e) (h : p.package id e = .ok o) :
    ∃ services, RefersTo p root (p.resolved.slot id "services") services ∧
      (∀ a ∈ listedSystemActions e ++ userActions e, Unreserved e a.1) ∧
      Unreserved e (placedAt e "install") ∧ Unreserved e (placedAt e "uninstall") ∧
      o = .obj (shownBase root e ++ packageFields p root id e services) := by
  unfold package at h
  rw [baseFields_eq rooted] at h
  obtain ⟨_, ⟨⟩, h⟩ := bind_ok h
  obtain ⟨_, rendered, h⟩ := bind_ok h
  obtain ⟨services, rfl, refers⟩ := slotRefs_ok rooted rendered
  rw [vars_eq rooted] at h
  obtain ⟨_, ⟨⟩, h⟩ := bind_ok h
  obtain ⟨_, rendered, h⟩ := bind_ok h
  obtain ⟨rfl, install⟩ := runbookFor_ok rooted found rendered
  obtain ⟨_, rendered, h⟩ := bind_ok h
  obtain ⟨rfl, uninstall⟩ := runbookFor_ok rooted found rendered
  obtain ⟨_, rendered, h⟩ := bind_ok h
  obtain ⟨rfl, free⟩ := actionList_ok rooted found rendered
  exact ⟨services, refers, free, install, uninstall, pure_ok h⟩

theorem endpoint_ok (h : p.endpoint id e = .ok o) :
    ∃ login, RefersToFirst p root (p.resolved.slot id "credential") login ∧
      o = .obj (shownBase root e ++ [("login_credential_local_reference", login)]) := by
  unfold endpoint at h
  rw [baseFields_eq rooted] at h
  obtain ⟨_, ⟨⟩, h⟩ := bind_ok h
  obtain ⟨login, rendered, h⟩ := bind_ok h
  exact ⟨login, slotRef_ok rooted rendered, pure_ok h⟩

theorem credential_ok (h : p.credential e = .ok o) :
    o = .obj ((shownBase root e).map wrapSecret) := by
  unfold credential at h
  rw [baseFields_eq rooted] at h
  obtain ⟨_, ⟨⟩, h⟩ := bind_ok h
  exact pure_ok h

end Parts

/-! ### Definitions by kind -/

/-- An object that defines an entity. -/
structure Defines (p : Payload) (root : Entity) (id : EntityId) (e : Entity) (o : Json) : Prop where
  name : o.text? "name" = some e.name
  uuid : o.text? "uuid" = some (identifierAt root.name (entityPath e)).text
  shown : Shown p root id e o

section Kinds

variable {p : Payload} {root e : Entity} {id : EntityId} {o : Json}

theorem runbooks_of_actions (as : List (Action × String)) :
    (as.map fun a => shownAction ⟨p, id, e, a.1⟩ root a.2).filterMap (Json.get? "runbook") =
      as.map fun a => shownRunbook ⟨p, id, e, a.1⟩ root := by
  induction as with
  | nil => rfl
  | cons a as ih =>
    rw [List.map_cons, List.map_cons, ← ih]
    rfl

theorem Shown.defines (rest : List (String × Json)) {fields : List (String × Json)}
    (keys : ∀ key ∈ Entries.keys rest, key ∈ "account_uuid" :: e.kind.schema.attrKeys)
    (h : Shown p root id e (.obj fields)) : Defines p root id e (.obj (
      ("name", .str e.name) :: ("description", .str e.description) ::
        ("uuid", .str (identifierAt root.name (entityPath e)).text) :: (rest ++ fields))) := by
  refine ⟨rfl, rfl, Shown.after (_ :: _ :: _ :: rest) (fun key mem other => ?_) h⟩
  have apart := shownFields_apart e.kind key mem
  simp only [Entries.keys, List.map_cons, List.mem_cons] at other
  simp only [List.cons_append, List.nil_append, List.mem_cons] at apart
  have rest := keys key
  simp only [List.mem_cons, Entries.keys] at rest
  tauto

theorem Shown.defines_base {fields : List (String × Json)} (h : Shown p root id e (.obj fields)) :
    Defines p root id e (.obj (shownBase root e ++ fields)) :=
  h.defines _ fun _ mem => List.mem_cons_of_mem _ (keys_attrs e ▸ mem)

theorem Shown.prepend {refs fields : List (String × Json)}
    (apart : ∀ key ∈ ["variable_list", "action_list", "runbook", "options"], key ∉ Entries.keys refs)
    (bound : ∀ f ∈ refs, Bound p root id f) (rest : ∀ f ∈ fields, Bound p root id f)
    (h : Shown p root id e (.obj fields)) : Shown p root id e (.obj (refs ++ fields)) := by
  have same : ∀ key ∈ ["variable_list", "action_list", "runbook", "options"],
      Json.get? key (.obj (refs ++ fields)) = Json.get? key (.obj fields) := by
    intro key mem
    rw [Json.get?, Json.get?, Entries.get?_append, get?_none (apart key mem), Option.none_or]
  have within : ∀ k, Json.within? ["options", k] (.obj (refs ++ fields)) =
      Json.within? ["options", k] (.obj fields) := by
    intro k
    simp only [Json.within?, List.foldlM_cons, same "options" (by decide)]
  refine ⟨?_, ?_, ?_, h.unreserved, fieldRefs_bound (List.forall_mem_append.mpr ⟨bound, rest⟩)⟩
  · rw [Json.items, same _ (by decide)]
    exact h.vars
  · rw [Json.items, same _ (by decide)]
    exact h.actions
  · rw [runbooksIn, Json.items, same _ (by decide), same _ (by decide), within, within]
    exact h.runbooks

theorem bound_ending : ∀ f ∈ shownEnding p root id e, Bound p root id f := by
  simp only [shownEnding, List.forall_mem_cons]
  exact ⟨bound_other (by decide), bound_other (by decide), by simp⟩

/-- Kinds whose objects end with their variables, listed actions and nothing else that is shown. -/
def endingKinds : List EntityKind := [.service, .deployment, .profile, .substrate]

theorem shown_ending (ends : e.kind ∈ endingKinds)
    (free : ∀ a ∈ listedSystemActions e ++ userActions e, Unreserved e a.1) :
    Shown p root id e (.obj (shownEnding p root id e)) := by
  obtain ⟨vars, listed, placed⟩ : varsOf e = e.vars.values ∧
      listedOf e = listedSystemActions e ++ userActions e ∧ placedOf e = [] := by
    simp only [endingKinds, List.mem_cons, List.not_mem_nil, or_false] at ends
    rcases ends with kind | kind | kind | kind <;> simp [varsOf, listedOf, placedOf, kind]
  have unreserved : ∀ a ∈ actionsOf e, Unreserved e a := by
    rw [actionsOf, listed, placed, List.append_nil]
    exact List.forall_mem_map.mpr free
  refine ⟨?_, ?_, ?_, unreserved, fieldRefs_bound bound_ending⟩
  · rw [vars]
    rfl
  · rw [listed]
    rfl
  · have runbooks : runbooksIn (.obj (shownEnding p root id e)) =
        ((listedSystemActions e ++ userActions e).map fun a =>
          shownAction ⟨p, id, e, a.1⟩ root a.2).filterMap (Json.get? "runbook") ++ [] ++ [] ++ [] := rfl
    rw [runbooks, runbooks_of_actions, actionsOf, listed, placed, List.append_nil, List.append_nil,
      List.append_nil, List.append_nil, List.map_map]
    rfl

theorem shown_nothing (bare : e.kind ∈ [EntityKind.endpoint, .credential]) :
    Shown p root id e (.obj []) := by
  obtain ⟨vars, listed, placed⟩ : varsOf e = [] ∧ listedOf e = [] ∧ placedOf e = [] := by
    simp only [List.mem_cons, List.not_mem_nil, or_false] at bare
    rcases bare with kind | kind <;> simp [varsOf, listedOf, placedOf, kind]
  have none : actionsOf e = [] := by rw [actionsOf, listed, placed, List.map_nil, List.append_nil]
  refine ⟨?_, ?_, ?_, by simp [none], fieldRefs_bound (by simp)⟩
  · rw [vars]
    rfl
  · rw [listed]
    rfl
  · rw [none]
    rfl

theorem EndsAfter.defines {own : List (String × Json)} (ends : EndsAfter p root id e own o)
    (kind : e.kind ∈ endingKinds)
    (apart : ∀ key ∈ ["variable_list", "action_list", "runbook", "options"], key ∉ Entries.keys own)
    (bound : ∀ f ∈ own, Bound p root id f) : Defines p root id e o := by
  rw [ends.object]
  exact Shown.defines_base
    (Shown.prepend apart bound bound_ending (shown_ending kind ends.free))

variable (rooted : p.entity p.resolved.root = .ok root) (found : p.entity id = .ok e)

include rooted found

theorem service_defines (kind : e.kind = .service) (h : p.service id e = .ok o) :
    Defines p root id e o := by
  obtain ⟨dependsOn, refers, ends⟩ := service_ok rooted found h
  refine ends.defines (by simp [endingKinds, kind]) (by simp [Entries.keys]) ?_
  exact List.forall_mem_singleton.mpr (bound_list (by decide) refers.slotRef)

theorem deployment_defines (kind : e.kind = .deployment) (h : p.deployment id e = .ok o) :
    Defines p root id e o := by
  obtain ⟨packages, substrate, dependsOn, packagesRefer, substrateRefers, dependsOnRefers, ends⟩ :=
    deployment_ok rooted found h
  refine ends.defines (by simp [endingKinds, kind]) (by simp [Entries.keys]) ?_
  simp only [List.forall_mem_cons]
  exact ⟨bound_list (by decide) packagesRefer.slotRef,
    bound_field (by decide) substrateRefers.slotRef,
    bound_list (by decide) dependsOnRefers.slotRef, by simp⟩

theorem profile_defines (kind : e.kind = .profile) (h : p.profile id e = .ok o) :
    Defines p root id e o := by
  obtain ⟨environments, deployments, refers, ends⟩ := profile_ok rooted found h
  refine ends.defines (by simp [endingKinds, kind]) (by simp [Entries.keys]) ?_
  simp only [List.forall_mem_cons]
  exact ⟨bound_other (by decide), bound_list (by decide) refers.slotRef, by simp⟩

theorem package_defines (kind : e.kind = .package) (h : p.package id e = .ok o) :
    Defines p root id e o := by
  obtain ⟨services, refers, free, install, uninstall, rfl⟩ := package_ok rooted found h
  have unreserved : ∀ a ∈ actionsOf e, Unreserved e a := by
    simp only [actionsOf, listedOf, placedOf, kind]
    refine List.forall_mem_append.mpr ⟨List.forall_mem_map.mpr free, ?_⟩
    simp [install, uninstall]
  refine Shown.defines_base ⟨?_, ?_, ?_, unreserved, ?_⟩
  · rw [varsOf, kind]
    rfl
  · rw [listedOf, kind]
    rfl
  · simp only [actionsOf, listedOf, placedOf, kind, packageFields]
    generalize listedSystemActions e ++ userActions e = listed
    rw [List.map_append, List.map_map, runbooksIn, List.append_assoc, List.append_assoc]
    exact congrArg (· ++ _) (runbooks_of_actions _)
  · refine fieldRefs_bound ?_
    simp only [packageFields, List.forall_mem_cons]
    exact ⟨bound_list (by decide) refers.slotRef, bound_other (by decide),
      bound_other (by decide), bound_other (by decide), by simp⟩

omit found in
theorem endpoint_defines (kind : e.kind = .endpoint) (h : p.endpoint id e = .ok o) :
    Defines p root id e o := by
  obtain ⟨login, refers, rfl⟩ := endpoint_ok rooted h
  have shown : Shown p root id e (.obj ([("login_credential_local_reference", login)] ++ [])) :=
    Shown.prepend (by simp [Entries.keys])
      (List.forall_mem_singleton.mpr (bound_field (by decide) refers.slotRef)) nofun
      (shown_nothing (by simp [kind]))
  exact shown.defines_base

omit found in
theorem credential_defines (kind : e.kind = .credential) (h : p.credential e = .ok o) :
    Defines p root id e o := by
  have keys : Entries.keys ((attrs e).map wrapSecret) = Entries.keys (attrs e) := by
    rw [Entries.keys, Entries.keys, List.map_map]
    refine List.map_congr_left fun f _ => ?_
    simp only [Function.comp_apply]
    unfold wrapSecret
    split <;> rfl
  have shown : Shown p root id e (.obj []) := shown_nothing (by simp [kind])
  have defines := shown.defines ((attrs e).map wrapSecret) fun key mem =>
    List.mem_cons_of_mem _ (keys_attrs e ▸ keys ▸ mem)
  rw [List.append_nil] at defines
  rw [credential_ok rooted h]
  exact defines

omit rooted found in
theorem withLogin_fst (login : Json) (f : String × Json) : (withLogin login f).1 = f.1 := by
  unfold withLogin
  split <;> rfl

omit rooted found in
theorem keys_withLogin (login : Json) (fields : List (String × Json)) :
    Entries.keys (fields.map (withLogin login)) = Entries.keys fields := by
  rw [Entries.keys, Entries.keys, List.map_map]
  exact List.map_congr_left fun f _ => withLogin_fst login f

theorem substrate_defines (kind : e.kind = .substrate) (h : p.substrate id e = .ok o) :
    Defines p root id e o := by
  obtain ⟨account, login, accountKeys, -, free, rfl⟩ := substrate_ok rooted found h
  have shown : Shown p root id e (.obj (shownEnding p root id e)) :=
    shown_ending (by simp [endingKinds, kind]) free
  have keys : ∀ rest, Entries.keys rest = Entries.keys (attrs e) →
      ∀ key ∈ Entries.keys (rest ++ account), key ∈ "account_uuid" :: e.kind.schema.attrKeys := by
    intro rest same key mem
    rw [Entries.keys, List.map_append] at mem
    rcases List.mem_append.mp mem with mem | mem
    · exact List.mem_cons_of_mem _ (keys_attrs e ▸ same ▸ mem)
    · exact accountKeys key mem ▸ List.mem_cons_self
  split
  · have defines := shown.defines _ (keys (attrs e) rfl)
    rw [List.append_assoc] at defines
    exact defines
  · have defines := shown.defines _ (keys _ (keys_withLogin login (attrs e)))
    rw [List.append_assoc] at defines
    exact defines

/-- The probe of a substrate whose slot is bound logs in with the first target, if it has fields. -/
theorem substrate_probe (kind : e.kind = .substrate) (h : p.substrate id e = .ok o)
    (bound : p.resolved.slot id "credential" ≠ []) :
    ∃ t ts e', p.resolved.slot id "credential" = t :: ts ∧ p.entity t = .ok e' ∧
      o.get? "readiness_probe" =
        some (withLogin (refTo root e') ("readiness_probe", e.attr "readiness_probe")).2 := by
  obtain ⟨account, login, -, refers, -, rfl⟩ := substrate_ok rooted found h
  have probe : Entries.get? "readiness_probe" (shownBase root e) =
      some (e.attr "readiness_probe") := by
    simp only [shownBase, attrs, kind]
    rfl
  generalize p.resolved.slot id "credential" = targets at bound refers
  cases refers with
  | none => exact (bound rfl).elim
  | @first t ts e' found' =>
    refine ⟨t, ts, e', rfl, found', ?_⟩
    have present : (refTo root e').isNull = false := rfl
    rw [present]
    simp only [Bool.false_eq_true, if_false, Json.get?, Entries.get?_append,
      Entries.get?_map_of_fst (withLogin_fst (refTo root e')), probe, Option.map_some,
      Option.some_or]

/-- A substrate logs in with what its slot is bound to, if it has a probe to log in with. -/
theorem substrate_login (kind : e.kind = .substrate) (h : p.substrate id e = .ok o)
    (bound : p.resolved.slot id "credential" ≠ []) {j : Json}
    (login : o.within? ["readiness_probe", "login_credential_local_reference"] = some j) :
    SlotRef p root id j := by
  obtain ⟨t, ts, e', targets, found', probe⟩ := substrate_probe rooted found kind h bound
  have inner : (withLogin (refTo root e') ("readiness_probe", e.attr "readiness_probe")).2.get?
      "login_credential_local_reference" = some j := by
    rw [Json.within?, List.foldlM_cons, probe] at login
    simpa only [Option.bind_eq_bind, Option.bind_some, List.foldlM_cons, List.foldlM_nil, bind_pure]
      using login
  cases attr : e.attr "readiness_probe" with
  | obj fields =>
    rw [attr, withLogin, Json.get?, Entries.get?_put, if_pos rfl] at inner
    exact ⟨"credential", t, e', targets ▸ List.mem_cons_self, found', (Option.some.inj inner).symm⟩
  | _ =>
    rw [attr] at inner
    cases inner

theorem definition_ok (h : p.definition id = .ok o) : Defines p root id e o := by
  unfold definition at h
  rw [found] at h
  obtain ⟨_, ⟨⟩, h⟩ := bind_ok h
  split at h
  case h_1 kind => exact service_defines rooted found kind h
  case h_2 kind => exact package_defines rooted found kind h
  case h_3 kind => exact substrate_defines rooted found kind h
  case h_4 kind => exact deployment_defines rooted found kind h
  case h_5 kind => exact profile_defines rooted found kind h
  case h_6 kind => exact credential_defines rooted kind h
  case h_7 kind => exact endpoint_defines rooted kind h
  case h_8 => cases h

theorem definition_login (kind : e.kind = .substrate) (h : p.definition id = .ok o)
    (bound : p.resolved.slot id "credential" ≠ []) {j : Json}
    (login : o.within? ["readiness_probe", "login_credential_local_reference"] = some j) :
    SlotRef p root id j := by
  unfold definition at h
  rw [found] at h
  obtain ⟨_, ⟨⟩, h⟩ := bind_ok h
  rw [kind] at h
  exact substrate_login rooted found kind h bound login

end Kinds

end Blueprint.Payload
