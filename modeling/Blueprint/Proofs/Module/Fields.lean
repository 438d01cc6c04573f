import Blueprint.Module.Declaration
import Blueprint.Proofs.Data.Partners
import Blueprint.Proofs.Entity.Override

/-!
# The fields of a declaration

What a declaration gives itself becomes a draft, and the builder leaves the other fields to its
bases.
-/

namespace Blueprint.Declaration

variable {files : Files} {d : Declaration} {parents : List Entity} {draft : EntityDraft}

def scope (d : Declaration) (files : Files) : FileScope := ⟨files, d.file⟩

/-- The attributes that a declaration gives, in place or by the name of a file. -/
def attrKeys (d : Declaration) : List String :=
  d.source.attrs.keys ++ (d.source.createSpecFile.map fun _ => "create_spec").toList ++
    (d.source.secretFile.map fun _ => "secret").toList

/-- A draft over some bases has the fields that a declaration gives, and no other. -/
structure Gives (d : Declaration) (files : Files) (description : Option String)
    (parents : List Entity) (draft : EntityDraft) : Prop where
  key : draft.key = d.key
  description : draft.description = description
  bases : draft.bases = parents
  vars : List.Forall₂ (fun x v => v.name = x.1 ∧ (d.scope files).readVariable x.1 x.2 = .ok v)
    d.source.vars.entries draft.vars
  actions : List.Forall₂
    (fun x a => a.name = x.1 ∧ (d.scope files).action d.subject x.1 x.2 = .ok a)
    d.source.actions.entries draft.actions
  references : List.Forall₂ (fun x y => y.1 = x.1 ∧ FileScope.references d x.1 x.2 = .ok y.2)
    d.source.refs.entries draft.references.entries
  attrs : draft.attrs.keys = d.attrKeys
  inlineAttrs : ∀ k ∈ d.source.attrs.keys, draft.attrs.get? k = d.source.attrs.get? k
  createSpec : ∀ file, d.source.createSpecFile = some file →
    ∃ j, (d.scope files).createSpec d file = .ok j ∧ draft.attrs.get? "create_spec" = some j
  secret : ∀ file, d.source.secretFile = some file →
    ∃ j, (d.scope files).secret d file = .ok j ∧ draft.attrs.get? "secret" = some j
  editables : draft.editables = d.source.editables

theorem readVariable_name {s : FileScope} {name : String} {source : Option VariableSource}
    {v : Variable} (h : s.readVariable name source = .ok v) : v.name = name := by
  cases source with
  | none => cases h
  | some source =>
    obtain ⟨kind, -, h⟩ := bind_ok h
    unfold Variable.declare at h
    split at h
    · exact Except.ok.inj h ▸ rfl
    · cases h

theorem action_name {s : FileScope} {entity name : String} {source : ActionSource} {a : Action}
    (h : s.action entity name source = .ok a) : a.name = name := by
  obtain ⟨tree, -, h⟩ := bind_ok h
  obtain ⟨vars, -, h⟩ := bind_ok h
  exact pure_ok h ▸ rfl

theorem attributeText_ok {s : FileScope} {owner : EntityKind} {key file text : String}
    (h : s.attributeText d owner key file = .ok text) : key ∉ d.source.attrs.keys := by
  unfold FileScope.attributeText at h
  split at h
  · cases h
  · split at h
    · cases h
    · rename_i absent
      exact mt (OrderedMap.contains_iff _ _).mpr absent

theorem createSpec_ok {s : FileScope} {file : String} {j : Json} (h : s.createSpec d file = .ok j) :
    "create_spec" ∉ d.source.attrs.keys := by
  obtain ⟨text, read, -⟩ := bind_ok h
  exact attributeText_ok read

theorem secret_ok {s : FileScope} {file : String} {j : Json} (h : s.secret d file = .ok j) :
    "secret" ∉ d.source.attrs.keys := by
  obtain ⟨text, read, -⟩ := bind_ok h
  exact attributeText_ok read

/-- Attributes with the one that a file gives, if there is such a file. -/
def filed (m : OrderedMap Json) (key : String) (read : String → Except CompileError Json) :
    Option String → Except CompileError (OrderedMap Json)
  | some file => m.insert key <$> read file
  | none => .ok m

theorem attributes_eq (s : FileScope) (d : Declaration) : s.attributes d =
    (filed d.source.attrs "create_spec" (s.createSpec d) d.source.createSpecFile >>= fun m =>
      filed m "secret" (s.secret d) d.source.secretFile) := by
  unfold FileScope.attributes
  cases d.source.createSpecFile <;> rfl

theorem filed_ok {m m' : OrderedMap Json} {key : String} {file : Option String}
    {read : String → Except CompileError Json}
    (fresh : ∀ name j, read name = .ok j → key ∉ m.keys) (h : filed m key read file = .ok m') :
    m'.keys = m.keys ++ (file.map fun _ => key).toList ∧
      (∀ k ∈ m.keys, m'.get? k = m.get? k) ∧
      ∀ name, file = some name → ∃ j, read name = .ok j ∧ m'.get? key = some j := by
  cases file with
  | none =>
    obtain rfl := Except.ok.inj h
    exact ⟨(List.append_nil _).symm, fun _ _ => rfl, nofun⟩
  | some name =>
    obtain ⟨j, found, rfl⟩ := map_ok h
    have new := fresh name j found
    refine ⟨?_, fun k mem => ?_, ?_⟩
    · rw [OrderedMap.keys_insert, if_neg new]
      rfl
    · have other : key ≠ k := fun same => new (same ▸ mem)
      rw [OrderedMap.get?_insert, if_neg other]
    · rintro _ ⟨rfl⟩
      exact ⟨j, found, by rw [OrderedMap.get?_insert, if_pos rfl]⟩

theorem attributes_ok {s : FileScope} {m : OrderedMap Json} (h : s.attributes d = .ok m) :
    m.keys = d.attrKeys ∧ (∀ k ∈ d.source.attrs.keys, m.get? k = d.source.attrs.get? k) ∧
      (∀ file, d.source.createSpecFile = some file →
        ∃ j, s.createSpec d file = .ok j ∧ m.get? "create_spec" = some j) ∧
      ∀ file, d.source.secretFile = some file →
        ∃ j, s.secret d file = .ok j ∧ m.get? "secret" = some j := by
  rw [attributes_eq] at h
  obtain ⟨m₁, first, second⟩ := bind_ok h
  obtain ⟨keys₁, same₁, spec⟩ := filed_ok (fun _ _ read => createSpec_ok read) first
  have fresh : ∀ name j, s.secret d name = .ok j → "secret" ∉ m₁.keys := by
    intro name j read known
    rw [keys₁] at known
    rcases List.mem_append.mp known with known | known
    · exact secret_ok read known
    · obtain ⟨_, -, same⟩ := Option.map_eq_some_iff.mp (Option.mem_toList.mp known)
      exact absurd same (by decide)
  obtain ⟨keys, same, secret⟩ := filed_ok fresh second
  refine ⟨keys.trans (congrArg (· ++ _) keys₁), fun k mem => ?_, fun file named => ?_, secret⟩
  · rw [same k (keys₁ ▸ List.mem_append_left _ mem), same₁ k mem]
  · obtain ⟨j, read, found⟩ := spec file named
    have known : "create_spec" ∈ m₁.keys := by
      rw [← OrderedMap.contains_iff, OrderedMap.contains, found]
      rfl
    exact ⟨j, read, (same _ known).trans found⟩

/-- A draft of a declaration has a description in any case. -/
theorem draft_gives (h : d.draft files parents = .ok draft) :
    d.Gives files (some d.source.description) parents draft := by
  obtain ⟨vars, varsRead, h⟩ := bind_ok h
  obtain ⟨actions, actionsRead, h⟩ := bind_ok h
  obtain ⟨references, referencesRead, h⟩ := bind_ok h
  obtain ⟨attrs, attrsRead, h⟩ := bind_ok h
  obtain ⟨keys, inlineAttrs, createSpec, secret⟩ := attributes_ok attrsRead
  have slots : List.Forall₂
      (fun x y => y.1 = x.1 ∧ FileScope.references d x.1 x.2 = .ok y.2)
      d.source.refs.entries references := by
    refine (mapM_ok referencesRead).imp fun x y read => ?_
    obtain ⟨targets, found, read⟩ := bind_ok read
    rw [pure_ok read]
    exact ⟨rfl, found⟩
  have distinct : (Entries.keys references).Nodup := by
    have same : Entries.keys references = d.source.refs.keys :=
      map_eq_of_forall₂ (fun _ _ r => r.1) slots
    exact same ▸ d.source.refs.nodup
  rw [pure_ok h]
  exact {
    key := rfl, description := rfl, bases := rfl
    vars := (mapM_ok varsRead).imp fun x v read => ⟨readVariable_name read, read⟩
    actions := (mapM_ok actionsRead).imp fun x a read => ⟨action_name read, read⟩
    references := (OrderedMap.entries_ofList distinct).symm ▸ slots
    attrs := keys, inlineAttrs, createSpec, secret, editables := rfl }

theorem Gives.described {description : Option String}
    (h : d.Gives files description parents draft) (given : Option String) :
    d.Gives files given parents { draft with description := given } :=
  ⟨h.key, rfl, h.bases, h.vars, h.actions, h.references, h.attrs, h.inlineAttrs, h.createSpec,
    h.secret, h.editables⟩

/-- What a declaration does not give is as the merged bases have it. -/
structure Inherits (d : Declaration) (merged e : Entity) : Prop where
  vars : ∀ n ∉ d.source.vars.keys, e.vars.get? n = merged.vars.get? n
  actions : ∀ n ∉ d.source.actions.keys,
    e.actions.get? n = (merged.actions.get? n).map (Action.under d.kind n)
  references : ∀ slot ∉ d.source.refs.keys, e.references.get? slot = merged.references.get? slot
  attrs : ∀ k ∉ d.attrKeys, e.attrs.get? k = merged.attrs.get? k
  editables : d.source.editables = [] → e.editables = merged.editables

theorem Gives.inherits {description : Option String} {merged e : Entity}
    (gives : d.Gives files description parents draft) (leaves : draft.Leaves merged e) :
    d.Inherits merged e where
  vars n absent := leaves.vars n (map_eq_of_forall₂ (fun _ _ r => r.1) gives.vars ▸ absent)
  actions n absent := by
    have kind : draft.kind = d.kind := congrArg EntityKey.kind gives.key
    exact kind ▸ leaves.actions n (map_eq_of_forall₂ (fun _ _ r => r.1) gives.actions ▸ absent)
  references slot absent := by
    have slots : draft.references.keys = d.source.refs.keys :=
      map_eq_of_forall₂ (fun _ _ r => r.1) gives.references
    exact leaves.references slot (slots ▸ absent)
  attrs k absent := leaves.attrs k (gives.attrs ▸ absent)
  editables absent := leaves.editables (gives.editables.trans absent)

end Blueprint.Declaration
