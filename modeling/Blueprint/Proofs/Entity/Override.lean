import Blueprint.Proofs.Data.Layers
import Blueprint.Proofs.Entity.Valid

/-!
# What an entity takes from its bases

An entity that was built has what its draft declares, and the rest from its bases: of variables and
attributes the first base that offers one counts, actions and reference slots come from one base
each.
-/

namespace Blueprint

/-! ### Merging the bases -/

namespace Entity

/-- The merge of one more base, once nothing is in its way. -/
def absorb (m base : Entity) : Entity :=
  { m with
    lineage := addNew m.lineage (base.lineage ++ [base.name])
    description := if m.description.isEmpty then base.description else m.description
    vars := m.vars.insertAllNew base.vars
    actions := m.actions.insertAllNew base.actions
    references := m.references.insertAllNew base.references
    attrs := m.attrs.insertAllNew base.attrs
    editables := addNew m.editables base.editables }

/-- No action and no reference slot stands in both entities. -/
structure Apart (a b : Entity) : Prop where
  actions : a.actions.keys.Disjoint b.actions.keys
  references : a.references.keys.Disjoint b.references.keys

end Entity

theorem Composition.add_ok {c c' : Composition} {base : Entity} (h : c.add base = .ok c') :
    c.merged.Apart base ∧ c'.merged = c.merged.absorb base := by
  obtain ⟨concrete, -, h⟩ := bind_ok h
  dsimp only at h
  split at h
  · cases h
  · rename_i actions
    obtain ⟨_, -, h⟩ := bind_ok h
    split at h
    · cases h
    · rename_i references
      obtain ⟨_, -, h⟩ := bind_ok h
      have apart : c.merged.Apart base :=
        ⟨OrderedMap.shared?_eq_none.mp actions, OrderedMap.shared?_eq_none.mp references⟩
      refine ⟨apart, ?_⟩
      rw [pure_ok h, Entity.absorb, OrderedMap.insertAll_of_disjoint apart.actions,
        OrderedMap.insertAll_of_disjoint apart.references]

namespace Entity

theorem Apart.of_absorb {m base b : Entity} (h : (m.absorb base).Apart b) :
    m.Apart b ∧ base.Apart b := by
  have actions := h.actions
  have references := h.references
  rw [absorb, OrderedMap.keys_insertAllNew] at actions references
  exact ⟨⟨fun _ mem => actions (mem_addNew.mpr (.inl mem)),
      fun _ mem => references (mem_addNew.mpr (.inl mem))⟩,
    ⟨fun _ mem => actions (mem_addNew.mpr (.inr mem)),
      fun _ mem => references (mem_addNew.mpr (.inr mem))⟩⟩

theorem foldlM_add_ok {bases : List Entity} {c c' : Composition}
    (h : bases.foldlM Composition.add c = .ok c') :
    c'.merged = bases.foldl absorb c.merged ∧ (∀ b ∈ bases, c.merged.Apart b) ∧
      bases.Pairwise Apart := by
  induction bases generalizing c with
  | nil => exact ⟨congrArg _ (pure_ok h), List.forall_mem_nil _, .nil⟩
  | cons b bases ih =>
    obtain ⟨next, added, rest⟩ := bind_ok h
    obtain ⟨apart, merged⟩ := Composition.add_ok added
    obtain ⟨same, others, pairwise⟩ := ih rest
    rw [merged] at same others
    exact ⟨same, List.forall_mem_cons.mpr ⟨apart, fun b' mem => (others b' mem).of_absorb.1⟩,
      .cons (fun b' mem => (others b' mem).of_absorb.2) pairwise⟩

theorem ofBases_ok {key : EntityKey} {bases : List Entity} {e : Entity}
    (h : ofBases key bases = .ok e) :
    e = bases.foldl absorb { kind := key.kind, name := key.name } ∧ bases.Pairwise Apart := by
  obtain ⟨c, composed, rfl⟩ := map_ok h
  obtain ⟨same, -, pairwise⟩ := foldlM_add_ok composed
  exact ⟨same, pairwise⟩

/-! ### The merged entity, field by field -/

/-- A field of the merged entity is that field merged. -/
theorem foldl_absorb {β : Type} (field : Entity → β) {merge : β → β → β}
    (step : ∀ m b, merge (field m) (field b) = field (absorb m b)) (bases : List Entity)
    (m : Entity) : field (bases.foldl absorb m) = (bases.map field).foldl merge (field m) := by
  rw [List.foldl_map]
  exact (List.foldl_hom field step).symm

theorem foldl_absorb_key (bases : List Entity) (m : Entity) :
    (bases.foldl absorb m).key = m.key := by
  induction bases generalizing m with
  | nil => rfl
  | cons b bases ih => exact ih (m.absorb b)

theorem foldl_absorb_description (bases : List Entity) (m : Entity) :
    (bases.foldl absorb m).description =
      ((m :: bases).map (·.description) |>.find? (!·.isEmpty)).getD "" := by
  induction bases generalizing m with
  | nil =>
    by_cases blank : m.description = ""
    · simp [blank]
    · simp [blank]
  | cons b bases ih =>
    rw [List.foldl_cons, ih]
    by_cases blank : m.description = ""
    · simp [absorb, blank]
    · simp [absorb, blank]

section Merged

variable {key : EntityKey} {bases : List Entity} {base : Entity}
  (h : ofBases key bases = .ok base)

include h

theorem ofBases_key : base.key = key := (ofBases_ok h).1 ▸ foldl_absorb_key ..

theorem ofBases_description :
    base.description = ((bases.map (·.description)).find? (!·.isEmpty)).getD "" :=
  (ofBases_ok h).1 ▸ foldl_absorb_description ..

theorem ofBases_lineage :
    base.lineage = (bases.flatMap fun b => b.lineage ++ [b.name]).eraseDups := by
  rw [(ofBases_ok h).1, ← addNew_nil, ← foldl_addNew]
  exact (List.foldl_hom lineage fun _ _ => rfl).symm

theorem ofBases_editables (own : List String) :
    addNew base.editables own = (bases.flatMap (·.editables) ++ own).eraseDups := by
  rw [(ofBases_ok h).1, ← addNew_nil, addNew_append, ← foldl_addNew]
  exact congrArg (addNew · own) (List.foldl_hom editables fun _ _ => rfl).symm

theorem ofBases_overrides {α : Type} (field : Entity → OrderedMap α)
    (start : field { kind := key.kind, name := key.name } = ∅)
    (step : ∀ m b, (field m).insertAllNew (field b) = field (absorb m b)) (own : OrderedMap α) :
    ((field base).insertAll own).Overrides own.entries (bases.map field) := by
  rw [(ofBases_ok h).1, foldl_absorb field step, start]
  exact OrderedMap.overrides_insertAll ..

end Merged

end Entity

/-! ### Classified actions -/

/-- An action as an entity of a kind has it. Mixins leave their actions as they are. -/
def Action.under (kind : EntityKind) (name : String) (a : Action) : Action :=
  if kind = .mixin then a
  else
    let listed := name ∈ kind.schema.systemActions.map (·.name)
    { a with kind := if listed then .system else .user }

namespace Entity

theorem actionKind_eq (s : KindSchema) (name : String) :
    actionKind s name = if name ∈ s.systemActions.map (·.name) then .system else .user := by
  have listed : (s.systemAction? name).isSome = true ↔ name ∈ s.systemActions.map (·.name) := by
    simp [KindSchema.systemAction?, List.find?_isSome]
  unfold actionKind
  exact if_congr listed rfl rfl

theorem finalize_ok {e e' : Entity} (h : e.finalize = .ok e') :
    e' = { e with actions := e'.actions } ∧ e'.actions.keys = e.actions.keys ∧
      ∀ n, e'.actions.get? n = (e.actions.get? n).map (Action.under e.kind n) := by
  unfold finalize at h
  split at h
  · rename_i mixin
    obtain rfl := Except.ok.inj h
    have same : ∀ n, Action.under e.kind n = id := fun n => funext fun a => if_pos mixin
    exact ⟨rfl, rfl, fun n => by rw [same, Option.map_id_fun, id]⟩
  · rename_i concrete
    obtain ⟨_, valid, rfl⟩ := map_ok h
    refine ⟨rfl, OrderedMap.keys_mapValues .., fun n => ?_⟩
    rw [OrderedMap.get?_mapValues]
    cases found : e.actions.get? n with
    | none => rfl
    | some a =>
      have there : (n, classify e.kind.schema a) ∈ (e.actions.mapValues (classify _)).entries :=
        List.mem_map.mpr ⟨(n, a), Entries.mem_of_get? found, rfl⟩
      -- A base may hold an action under another name than its own; validation refuses that one
      -- unless both names are of the same kind.
      have kind : actionKind e.kind.schema a.name = actionKind e.kind.schema n :=
        validate_actions (e := { e with actions := e.actions.mapValues _ }) concrete valid _ there
      simp [Action.under, concrete, classify, kind, actionKind_eq]

/-- No check looks at a description. -/
theorem finalize_described (e : Entity) (text : String) :
    { e with description := text }.finalize =
      e.finalize.map fun e' => { e' with description := text } := by
  unfold finalize
  dsimp only
  split
  · rfl
  · change (Except.map _ (validate { e with actions := e.actions.mapValues _ })) = _
    cases validate { e with actions := e.actions.mapValues _ } <;> rfl

end Entity

namespace EntityDraft

/-! ### Checked drafts -/

theorem repeated?_eq_none {seen ns : List String} (h : repeated? seen ns = none) :
    ns.Nodup ∧ ns.Disjoint seen := by
  induction ns generalizing seen with
  | nil => exact ⟨.nil, List.disjoint_nil_left _⟩
  | cons n ns ih =>
    rw [repeated?] at h
    split at h
    · cases h
    · rename_i fresh
      obtain ⟨distinct, apart⟩ := ih h
      obtain ⟨new, apart⟩ := List.disjoint_cons_right.mp apart
      exact ⟨.cons new distinct, List.disjoint_cons_left.mpr ⟨by simpa using fresh, apart⟩⟩

theorem repeated?_actions {seen : List String} {as : List Action}
    (h : checkActions seen as = .ok ()) : repeated? seen (as.map (·.name)) = none := by
  induction as generalizing seen with
  | nil => rfl
  | cons a as ih =>
    rw [checkActions] at h
    split at h
    · cases h
    · split at h
      · cases h
      · rename_i fresh
        rw [List.map_cons, repeated?, if_neg fresh]
        exact ih h

/-- The merged bases of a draft that is ready to be laid over them. -/
def checked (d : EntityDraft) : Except CompileError Entity := do
  let subject := d.key.text
  if Text.blankText d.name then .error (.validation subject .emptyName)
  let base ← (Entity.ofBases d.key d.bases).mapError (.merge d.key)
  d.checkVariables.mapError (.validation subject)
  (checkActions [] d.actions).mapError (.validation subject)
  return base

theorem build_eq (d : EntityDraft) :
    d.build = d.checked >>= fun base => (d.overlay base).finalize := by
  unfold build checked
  dsimp only
  split
  · rfl
  · simp only [bind_assoc, pure_bind]

theorem checked_ok {d : EntityDraft} {base : Entity} (h : d.checked = .ok base) :
    Entity.ofBases d.key d.bases = .ok base ∧ (d.vars.map (·.name)).Nodup ∧
      (d.actions.map (·.name)).Nodup := by
  unfold checked at h
  dsimp only at h
  split at h
  · cases h
  · obtain ⟨merged, based, h⟩ := bind_ok h
    obtain ⟨_, vars, h⟩ := bind_ok h
    obtain ⟨_, actions, h⟩ := bind_ok h
    obtain rfl := pure_ok h
    refine ⟨mapError_ok based, ?_, (repeated?_eq_none (repeated?_actions (mapError_ok actions))).1⟩
    have distinct := mapError_ok vars
    unfold checkVariables at distinct
    split at distinct
    · cases distinct
    · rename_i none
      exact (repeated?_eq_none none).1

end EntityDraft

/-! ### What a draft leaves to its bases -/

namespace EntityDraft

/-- What a draft does not declare is as the merged bases have it. -/
structure Leaves (d : EntityDraft) (merged e : Entity) : Prop where
  description : d.description = none → e.description = merged.description
  vars : ∀ n ∉ d.vars.map (·.name), e.vars.get? n = merged.vars.get? n
  actions : ∀ n ∉ d.actions.map (·.name),
    e.actions.get? n = (merged.actions.get? n).map (Action.under d.kind n)
  references : ∀ slot ∉ d.references.keys, e.references.get? slot = merged.references.get? slot
  attrs : ∀ k ∉ d.attrs.keys, e.attrs.get? k = merged.attrs.get? k
  editables : d.editables = [] → e.editables = merged.editables

theorem build_leaves {d : EntityDraft} {e : Entity} (h : d.build = .ok e) :
    ∃ merged, Entity.ofBases d.key d.bases = .ok merged ∧ d.Leaves merged e := by
  obtain ⟨merged, checked, built⟩ := bind_ok (build_eq d ▸ h)
  obtain ⟨based, varsOnce, actionsOnce⟩ := checked_ok checked
  obtain ⟨same, -, actions⟩ := Entity.finalize_ok built
  have kind : (d.overlay merged).kind = d.kind := congrArg EntityKey.kind (Entity.ofBases_key based)
  refine ⟨merged, based, ?_, ?_, ?_, ?_, ?_, ?_⟩
  · intro absent
    rw [same]
    exact congrArg (Option.getD · _) absent
  · intro n absent
    rw [same]
    exact OrderedMap.get?_insertAll_absent _ (OrderedMap.keys_ofList_keyed varsOnce ▸ absent)
  · intro n absent
    rw [actions, kind]
    exact congrArg _
      (OrderedMap.get?_insertAll_absent _ (OrderedMap.keys_ofList_keyed actionsOnce ▸ absent))
  · intro slot absent
    rw [same]
    exact OrderedMap.get?_insertAll_absent _ absent
  · intro k absent
    rw [same]
    exact OrderedMap.get?_insertAll_absent _ absent
  · intro absent
    rw [same]
    exact congrArg (addNew _) absent

theorem build_key {d : EntityDraft} {e : Entity} (h : d.build = .ok e) : e.key = d.key := by
  obtain ⟨merged, checked, built⟩ := bind_ok (build_eq d ▸ h)
  have key := Entity.ofBases_key (checked_ok checked).1
  rw [(Entity.finalize_ok built).1]
  exact key

/-- Another description changes nothing else. -/
theorem build_described {d : EntityDraft} {e : Entity} (h : d.build = .ok e)
    (text : Option String) :
    ∃ merged, Entity.ofBases d.key d.bases = .ok merged ∧
      { d with description := text }.build =
        .ok { e with description := text.getD merged.description } := by
  obtain ⟨merged, checked, built⟩ := bind_ok (build_eq d ▸ h)
  have same : { d with description := text }.checked = .ok merged := checked
  have laid : { d with description := text }.overlay merged =
      { d.overlay merged with description := text.getD merged.description } := rfl
  refine ⟨merged, (checked_ok checked).1, ?_⟩
  rw [build_eq, same, ok_bind, laid, Entity.finalize_described, built]
  rfl

end EntityDraft

/-! ### The law -/

/-- What an entity that was built has: what its draft declares, and the rest from the bases in
their order. -/
structure EntityDraft.Composes (d : EntityDraft) (e : Entity) : Prop where
  key : e.key = d.key
  description : e.description =
    d.description.getD ((d.bases.map (·.description) |>.find? (!·.isEmpty)).getD "")
  varsOnce : (d.vars.map (·.name)).Nodup
  vars : e.vars.Overrides (d.vars.map fun v => (v.name, v)) (d.bases.map (·.vars))
  attrs : e.attrs.Overrides d.attrs.entries (d.bases.map (·.attrs))
  /-- No two bases offer the same action or the same slot. -/
  apart : d.bases.Pairwise Entity.Apart
  references : e.references.Overrides d.references.entries (d.bases.map (·.references))
  actionsOnce : (d.actions.map (·.name)).Nodup
  action : ∀ n, e.actions.get? n =
    ((d.actions.find? (·.name == n)).or (d.bases.findSome? (·.actions.get? n))).map
      (Action.under d.kind n)
  actionKeys : e.actions.keys =
    (d.bases.flatMap (·.actions.keys) ++ d.actions.map (·.name)).eraseDups
  editables : e.editables = (d.bases.flatMap (·.editables) ++ d.editables).eraseDups
  lineage : e.lineage = (d.bases.flatMap fun b => b.lineage ++ [b.name]).eraseDups
  lineageOnce : ∀ b ∈ d.bases, ∀ n ∈ b.lineage ++ [b.name], e.lineage.count n = 1

theorem EntityDraft.build_composes {d : EntityDraft} {e : Entity} (h : d.build = .ok e) :
    d.Composes e := by
  obtain ⟨base, checked, built⟩ := bind_ok (build_eq d ▸ h)
  obtain ⟨based, varsOnce, actionsOnce⟩ := checked_ok checked
  obtain ⟨same, keys, actions⟩ := Entity.finalize_ok built
  have kind : (d.overlay base).kind = d.kind := congrArg EntityKey.kind (Entity.ofBases_key based)
  have lineage : e.lineage = (d.bases.flatMap fun b => b.lineage ++ [b.name]).eraseDups := by
    rw [same, ← Entity.ofBases_lineage based]
    rfl
  have vars := Entity.ofBases_overrides based (·.vars) rfl (fun _ _ => rfl)
    (.ofList (d.vars.map fun v => (v.name, v)))
  rw [OrderedMap.entries_ofList_keyed varsOnce] at vars
  have own := Entity.ofBases_overrides based (·.actions) rfl (fun _ _ => rfl)
    (.ofList (d.actions.map fun a => (a.name, a)))
  rw [OrderedMap.entries_ofList_keyed actionsOnce] at own
  refine {
    key := build_key h
    description := ?_
    varsOnce
    vars := same ▸ vars
    attrs := same ▸ Entity.ofBases_overrides based (·.attrs) rfl (fun _ _ => rfl) d.attrs
    apart := (Entity.ofBases_ok based).2
    references :=
      same ▸ Entity.ofBases_overrides based (·.references) rfl (fun _ _ => rfl) d.references
    actionsOnce
    action := ?_
    actionKeys := ?_
    editables := same ▸ Entity.ofBases_editables based d.editables
    lineage
    lineageOnce := ?_ }
  · rw [same, ← Entity.ofBases_description based]
    rfl
  · intro n
    have found := own.get? n
    rw [Entries.get?_map_find?, List.findSome?_map] at found
    rw [actions, kind]
    exact congrArg _ found
  · rw [keys]
    have found := own.keys
    rw [List.flatMap_map, List.map_map] at found
    exact found
  · intro b mem n named
    rw [lineage]
    exact List.count_eq_one_of_mem (eraseDups_nodup _)
      (List.mem_eraseDups.mpr (List.mem_flatMap.mpr ⟨b, mem, named⟩))

/-- A variable with a value and nothing else. -/
def Variable.plain (name value : String) : Variable :=
  { name, value, kind := .simple, type := .string, isRuntime := false, isMandatory := false
    isHidden := false, regex := none, default := none, description := "", label := "" }

/-- A service over a mixin and another service, which both have a variable `path`. -/
def EntityDraft.shop : EntityDraft where
  kind := .service
  name := "Shop"
  bases :=
    [{ kind := .mixin, name := "Logging"
       vars := .ofList [("level", .plain "level" "info"), ("path", .plain "path" "/var/log")]
       actions := .ofList [("start", { name := "start", critical := true, tree := [] })]
       editables := ["tier"], lineage := ["Common"] },
     { kind := .service, name := "Server", description := "A server"
       vars := .ofList [("path", .plain "path" "/srv"), ("port", .plain "port" "80")]
       actions := .ofList [("backup", { name := "backup", description := "Nightly", tree := [] })]
       attrs := .ofList [("tier", .str "web")], lineage := ["Common"] }]
  vars := [.plain "level" "debug", .plain "owner" "me"]
  actions := [{ name := "backup", tree := [] }]
  attrs := .ofList [("singleton", .bool true)]
  editables := ["singleton", "tier"]

theorem EntityDraft.build_composes_shop : ∃ e, shop.build = .ok e ∧ shop.Composes e ∧
    (e.vars.values.map fun v => (v.name, v.value)) =
      [("level", "debug"), ("path", "/var/log"), ("port", "80"), ("owner", "me")] ∧
    (e.actions.values.map fun a => (a.name, a.kind, a.critical, a.description)) =
      [("start", .system, true, ""), ("backup", .user, false, "")] ∧
    e.attrs.keys = ["tier", "singleton"] ∧ e.editables = ["tier", "singleton"] ∧
    e.description = "A server" ∧ e.lineage = ["Common", "Logging", "Server"] := by
  refine Exists.imp (fun _ h => ⟨h.1, build_composes h.1, h.2⟩) (ok_of_test ?_)
  decide +kernel

end Blueprint
