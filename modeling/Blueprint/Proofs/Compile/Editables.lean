import Blueprint.Proofs.Payload.Lookup

/-!
# Editables and the payload

The path of an editable field leads to something in the payload. What stands there is the value of
the field, but for a secret, which is wrapped, and for paths that read otherwise than they were
written or that something else answers.
-/

namespace Blueprint.Compiled

open EditableTree Payload
open Selector (Enclosed Flat identifier_word keyed)

variable {g : EntityGraph} {context : CompileContext} {c : Compiled} {root e : Entity}
  {id : EntityId} {f : EditableField}

theorem mem_variableFields {base : String} {vs : List Variable} :
    f ∈ variableFields base vs ↔ ∃ v ∈ vs, v.isRuntime = true ∧
      f = ⟨v.name, base ++ "." ++ keyed "variable_list" v.name ++ ".value", .str v.wireValue⟩ := by
  simp only [variableFields, List.mem_map, List.mem_filter, and_assoc, keyed, eq_comm (a := f)]

/-- A field whose path need not lead to its value. -/
inductive Astray (c : Compiled) (id : EntityId) (e : Entity) (f : EditableField) : Prop where
  /-- No path leads to the entity, as the payload has no place for it or its name breaks the path. -/
  | entity (lost : ¬c.Addressed id e)
  /-- The name of the variable breaks the path. -/
  | var (field : f ∈ variableFields (c.base id e) e.vars.values) (broken : ¬Enclosed f.name)
  /-- The path is read as more than fields, or the payload changes what is there. -/
  | attr (field : f ∈ attrFields (c.base id e) e)
      (changed : ¬Flat f.name ∨ Adjusted c.resolved id e (Text.split '.' f.name))
  /-- A system action is listed before the action and under its name. -/
  | action {a : Action} (mem : a ∈ e.actions.values) (shadowed : Shadowed e a)
      (field : f ∈ variableFields (c.base id e ++ "." ++ e.kind.actionPath a.name) a.vars.values)

/-- The secret of a credential that a path leads to. -/
def SecretField (c : Compiled) (id : EntityId) (e : Entity) (f : EditableField) : Prop :=
  c.Addressed id e ∧ e.kind = .credential ∧ f ∈ attrFields (c.base id e) e ∧ f.name = "secret"

section Fields

variable (shows : c.ShowsGraph g context root)
  (rendered : (Payload.mk c.resolved context).document c.editables = .ok c.document)
  (met : id ∈ c.resolved.reachable) (found : c.resolved.graph.entity? id = some e)
  (addressed : c.Addressed id e) (there : (c.document.lookup? f.path).isSome = true)

include shows rendered met found addressed there

/-- Below an entity, a path is one into its object. -/
theorem lookup?_below (rest : String) (path : f.path = c.base id e ++ "." ++ rest) :
    ∃ o, Shown ⟨c.resolved, context⟩ root id e o ∧ Keeps ⟨c.resolved, context⟩ root id e o ∧
      c.document.lookup? (c.base id e) = some o ∧ c.document.lookup? f.path = o.lookup? rest := by
  rw [path, Json.lookup?_point addressed.closed] at there ⊢
  cases at_ : c.document.lookup? (c.base id e) with
  | none =>
    rw [at_] at there
    cases there
  | some o =>
    obtain ⟨shown, keeps⟩ := shows.object_at rendered met found addressed at_
    exact ⟨o, shown, keeps, rfl, rfl⟩

theorem var_agrees (named : e.Named) (field : f ∈ variableFields (c.base id e) e.vars.values)
    (enclosed : Enclosed f.name) : c.document.lookup? f.path = some f.value := by
  obtain ⟨v, mem, -, rfl⟩ := mem_variableFields.mp field
  obtain ⟨o, shown, -, at_, -⟩ := lookup?_below shows rendered met found addressed there
    (keyed "variable_list" v.name ++ ".value") (by simp only [String.append_assoc])
  dsimp only at there enclosed ⊢
  rw [lookup?_variable addressed.closed enclosed, at_, Option.bind_some, shown.vars] at there ⊢
  have distinct := varsOf_names named
  by_cases shownAny : varsOf e = []
  · rw [shownAny] at there
    cases there
  · have all : varsOf e = e.vars.values := by
      unfold varsOf at shownAny ⊢
      split at shownAny <;> simp_all
    rw [all] at distinct ⊢
    exact find?_shownVar distinct mem

theorem attr_agrees (valid : e.validate = .ok ()) (field : f ∈ attrFields (c.base id e) e)
    (flat : Flat f.name) (plain : ¬Adjusted c.resolved id e (Text.split '.' f.name)) :
    c.document.lookup? f.path = some f.value := by
  obtain ⟨path, listed, rfl⟩ := List.mem_map.mp field
  obtain ⟨o, -, keeps, -, same⟩ := lookup?_below shows rendered met found addressed there _ rfl
  have top := Entity.validate_editables (addressed.concrete shows found) valid path listed
  rw [same, keeps.lookup?_attr top flat plain] at there ⊢
  obtain ⟨j, value⟩ := Option.isSome_iff_exists.mp there
  rw [value]
  rfl

theorem action_agrees (named : e.Named) (valid : e.validate = .ok ()) {a : Action}
    (mem : a ∈ e.actions.values) (clear : ¬Shadowed e a)
    (field : f ∈ variableFields (c.base id e ++ "." ++ e.kind.actionPath a.name) a.vars.values) :
    c.document.lookup? f.path = some f.value := by
  obtain ⟨v, inside, -, rfl⟩ := mem_variableFields.mp field
  obtain ⟨o, shown, keeps, at_, -⟩ := lookup?_below shows rendered met found addressed there
    (e.kind.actionPath a.name ++ "." ++ keyed "variable_list" v.name ++ ".value")
    (by simp only [String.append_assoc])
  have concrete := addressed.concrete shows found
  obtain ⟨closed, runbook⟩ := lookup?_runbook shown keeps concrete named valid mem clear
  obtain ⟨entry, listed, rfl⟩ := List.mem_map.mp mem
  have shape := named.actions entry listed
  have identifier : Text.isIdentifier v.name = true :=
    Entity.validate_actionVars concrete valid entry listed v.name
      (names_of_namedVars shape.vars ▸ List.mem_map_of_mem inside)
  dsimp only at there ⊢
  rw [lookup?_variable (addressed.closed.point closed) (identifier_word identifier).enclosed,
    Json.lookup?_point addressed.closed, at_, Option.bind_some, runbook]
  exact find?_shownVar (shaped_of_named shape).vars inside

theorem secret_wrapped (secret : e.kind = .credential) (field : f ∈ attrFields (c.base id e) e)
    (name : f.name = "secret") :
    c.document.lookup? f.path = some (wrapSecret ("secret", f.value)).2 := by
  obtain ⟨path, listed, rfl⟩ := List.mem_map.mp field
  obtain rfl : path = "secret" := name
  obtain ⟨o, -, keeps, -, same⟩ := lookup?_below shows rendered met found addressed there _ rfl
  have top : "secret" ∈ e.kind.schema.attrKeys := by
    rw [secret]
    decide
  have value : e.attrValue? "secret" = some (e.attr "secret") := by
    rw [Entity.attrValue?, show Text.split '.' "secret" = ["secret"] by decide]
    dsimp only
    rw [attr?_of_mem top]
    rfl
  rw [same, Json.lookup?_word (by decide), keeps.secret secret]
  dsimp only
  rw [value]
  rfl

end Fields

/-- No value holds itself. -/
theorem obj_cons_ne (k : String) (j : Json) (fields : List (String × Json)) :
    Json.obj ((k, j) :: fields) ≠ j := by
  intro same
  have size := congrArg sizeOf same
  simp only [Json.obj.sizeOf_spec, List.cons.sizeOf_spec, Prod.mk.sizeOf_spec] at size
  omega

/-- Every editable path of a compiled graph leads to something. To a secret that is not its value,
and otherwise to the value, if the field is not astray. -/
theorem compile_editables_agree (h : compile g context = .ok c)
    (made : ∀ d ∈ g.declared, d.entity.Made) :
    ∀ f ∈ c.editables.fields, (c.document.lookup? f.path).isSome = true ∧
      ∃ id ∈ c.resolved.reachable, ∃ e, c.resolved.graph.entity? id = some e ∧
        f ∈ (entry (c.base id e) e).fields ∧
        (¬c.Astray id e f → c.document.lookup? f.path = some f.value) ∧
        (c.SecretField id e f → c.document.lookup? f.path = some (wrapSecret ("secret", f.value)).2 ∧
          c.document.lookup? f.path ≠ some f.value) := by
  obtain ⟨valid, -, -, extracted, rendered⟩ := compile_passes h
  obtain ⟨root, shows⟩ := showsGraph h
  obtain ⟨-, -, -, -, leads⟩ := document_parts rendered
  intro f listed
  have there := leads f.path (List.mem_map_of_mem listed)
  obtain ⟨id, met, e, found, field⟩ := field_of_extract extracted listed
  refine ⟨there, id, met, e, found, field, fun sound => ?_, ?_⟩
  · have addressed : c.Addressed id e := by_contra fun lost => sound (.entity lost)
    obtain ⟨d, declared, rfl⟩ := shows.declared found
    have named := (made d declared).named
    have valid := forM_ok valid d declared
    rcases mem_entryFields.mp field with var | attr | ⟨a, mem, action⟩
    · exact var_agrees shows rendered met found addressed there named var
        (by_contra fun broken => sound (.var var broken))
    · have kept := not_or.mp fun changed => sound (.attr attr changed)
      exact attr_agrees shows rendered met found addressed there valid attr
        (not_not.mp kept.1) kept.2
    · exact action_agrees shows rendered met found addressed there named valid mem
        (fun shadowed => sound (.action mem shadowed action)) action
  · rintro ⟨addressed, kind, attr, name⟩
    have wrapped := secret_wrapped shows rendered met found addressed there kind attr name
    exact ⟨wrapped, fun same => obj_cons_ne _ _ _ (Option.some.inj (wrapped.symm.trans same))⟩

def port : Variable :=
  { (default : Variable) with name := "port", value := "8080", isRuntime := true }

/-- A runbook with a port that may be changed, and a credential with a name and a secret that may. -/
def editing : EntityGraph :=
  let run : Action :=
    { name := "run", kind := .system, tree := []
      vars := (∅ : OrderedMap Variable).insert "port" port }
  let login : Entity :=
    { kind := .credential, name := "login", editables := ["username", "secret"]
      attrs := (∅ : OrderedMap Json).insert "secret" (.str "pw") }
  let ops : Entity :=
    { kind := .runbook, name := "Ops", vars := (∅ : OrderedMap Variable).insert "port" port
      references := (∅ : OrderedMap (List Ref)).insert "credentials" [.named login.key]
      actions := (∅ : OrderedMap Action).insert "run" run }
  { declared := [⟨login, 1⟩, ⟨ops, 0⟩], root := some 1 }

theorem editing_made : ∀ d ∈ editing.declared, d.entity.Made := by
  have run : Action.Made
      { name := "run", tree := [], vars := (∅ : OrderedMap Variable).insert "port" port } :=
    ⟨⟨[port], rfl⟩, [], 0, "run", [], rfl, rfl⟩
  have login := Entity.Made.build
    (d :=
      { kind := .credential, name := "login", editables := ["username", "secret"]
        attrs := (∅ : OrderedMap Json).insert "secret" (.str "pw") })
    nofun nofun rfl
  have ops := Entity.Made.build
    (d :=
      { kind := .runbook, name := "Ops", vars := [port], actions := [_]
        references := (∅ : OrderedMap (List Ref)).insert "credentials"
          [.named ⟨.credential, "login"⟩] })
    nofun (List.forall_mem_singleton.mpr run) rfl
  exact List.forall_mem_cons.mpr ⟨login, List.forall_mem_singleton.mpr ops⟩

theorem editing_compiles : ∃ c, compile editing {} = .ok c ∧
    c.editables.paths =
      ["spec.resources.variable_list[port].value",
        "spec.resources.runbook.variable_list[port].value",
        "spec.resources.credential_definition_list[login].username",
        "spec.resources.credential_definition_list[login].secret"] ∧
    ∃ f ∈ c.editables.fields,
      (c.document.lookup? f.path).bind Json.asString? ≠ f.value.asString? :=
  ok_of_test (by decide +kernel)

theorem compile_editables_agree_editing : ∃ c, compile editing {} = .ok c ∧
    (∀ d ∈ editing.declared, d.entity.Made) ∧
    c.editables.paths =
      ["spec.resources.variable_list[port].value",
        "spec.resources.runbook.variable_list[port].value",
        "spec.resources.credential_definition_list[login].username",
        "spec.resources.credential_definition_list[login].secret"] ∧
    ∀ f ∈ c.editables.fields, (c.document.lookup? f.path).isSome = true ∧
      ∃ id ∈ c.resolved.reachable, ∃ e, c.resolved.graph.entity? id = some e ∧
        f ∈ (entry (c.base id e) e).fields ∧
        (¬c.Astray id e f → c.document.lookup? f.path = some f.value) ∧
        (c.SecretField id e f → c.document.lookup? f.path = some (wrapSecret ("secret", f.value)).2 ∧
          c.document.lookup? f.path ≠ some f.value) := by
  obtain ⟨c, compiled, paths, -⟩ := editing_compiles
  exact ⟨c, compiled, editing_made, paths, compile_editables_agree compiled editing_made⟩

theorem secret_disagrees : ∃ c, compile editing {} = .ok c ∧
    ∃ f ∈ c.editables.fields, c.document.lookup? f.path ≠ some f.value := by
  obtain ⟨c, compiled, -, f, field, apart⟩ := editing_compiles
  exact ⟨c, compiled, f, field, fun same => apart (congrArg (·.bind Json.asString?) same)⟩

end Blueprint.Compiled
