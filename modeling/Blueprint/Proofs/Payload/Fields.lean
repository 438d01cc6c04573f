import Blueprint.Proofs.Json.Address
import Blueprint.Proofs.Payload.Resources

/-!
# Fields of objects

Where the object of an entity keeps its attributes, and the runbooks with places of their own.
-/

namespace Blueprint

namespace Entries

variable {α : Type} {k : String}

theorem get?_map_keys {f : String → α} {ks : List String} (mem : k ∈ ks) :
    get? k (ks.map fun k => (k, f k)) = some (f k) := by
  induction ks with
  | nil => cases mem
  | cons k' ks ih =>
    rw [List.map_cons, get?]
    split
    · rename_i same
      rw [same]
    · rename_i other
      exact ih (List.mem_of_ne_of_mem (Ne.symm other) mem)

end Entries

namespace Payload

variable {p : Payload} {r : ResolvedGraph} {root e : Entity} {id : EntityId} {o : Json}

/-! ### Attributes -/

/-- A path into an attribute that is not shown as it is: a secret is wrapped, and the probe of a
substrate logs in with its credential. -/
def Adjusted (r : ResolvedGraph) (id : EntityId) (e : Entity) (path : List String) : Prop :=
  e.kind = .credential ∧ path.head? = some "secret" ∨
    e.kind = .substrate ∧ r.slot id "credential" ≠ [] ∧
      (path = ["readiness_probe"] ∨
        ["readiness_probe", "login_credential_local_reference"] <+: path)

/-- What the object of an entity makes of the fields that it begins with. -/
inductive Front (r : ResolvedGraph) (id : EntityId) (e : Entity) :
    (String × Json → String × Json) → Prop
  | same (kind : e.kind ≠ .credential) : Front r id e fun f => f
  | wrapped (kind : e.kind = .credential) : Front r id e wrapSecret
  | login (kind : e.kind = .substrate) (bound : r.slot id "credential" ≠ []) (j : Json) :
    Front r id e (withLogin j)

variable {f : String × Json → String × Json}

theorem wrapSecret_fst (f : String × Json) : (wrapSecret f).1 = f.1 := by
  unfold wrapSecret
  split <;> rfl

theorem Front.fst (h : Front r id e f) (field : String × Json) : (f field).1 = field.1 := by
  cases h with
  | same => rfl
  | wrapped => exact wrapSecret_fst field
  | login => exact withLogin_fst _ field

theorem follow?_withLogin {login v : Json} {top : String} {rest : List String}
    (other : ¬(top :: rest = ["readiness_probe"] ∨
      ["readiness_probe", "login_credential_local_reference"] <+: top :: rest)) :
    (withLogin login (top, v)).2.follow? rest = v.follow? rest := by
  unfold withLogin
  split
  · rename_i fields same
    obtain ⟨rfl, rfl⟩ := Prod.mk.inj same
    cases rest with
    | nil => exact (other (.inl rfl)).elim
    | cons k ks =>
      have apart : "login_credential_local_reference" ≠ k := by
        rintro rfl
        exact other (.inr ⟨ks, rfl⟩)
      rw [Json.follow?, Json.follow?, Json.get?, Json.get?, Entries.get?_put, if_neg apart]
  · rfl

theorem Front.follow? (h : Front r id e f) {top : String} {rest : List String}
    (plain : ¬Adjusted r id e (top :: rest)) (v : Json) :
    (f (top, v)).2.follow? rest = v.follow? rest := by
  cases h with
  | same => rfl
  | wrapped kind =>
    unfold wrapSecret
    split
    · rename_i same
      obtain ⟨rfl, -⟩ := Prod.mk.inj same
      exact (plain (.inl ⟨kind, rfl⟩)).elim
    · rfl
  | login kind bound => exact follow?_withLogin fun inside => plain (.inr ⟨kind, bound, inside⟩)

/-! ### Objects -/

/-- An object that keeps what is its entity's own at the paths where it is looked for. -/
structure Keeps (p : Payload) (root : Entity) (id : EntityId) (e : Entity) (o : Json) : Prop where
  attrs : ∀ top ∈ e.kind.schema.attrKeys, ∀ rest, ¬Adjusted p.resolved id e (top :: rest) →
    o.follow? (top :: rest) = (e.attr top).follow? rest
  secret : e.kind = .credential →
    o.get? "secret" = some (wrapSecret ("secret", e.attr "secret")).2
  placed : ∀ sa ∈ e.kind.schema.systemActions, ∀ path, sa.placement = .field path →
    o.lookup? path = some (shownRunbook ⟨p, id, e, placedAt e sa.name⟩ root)

theorem follow?_cons (j : Json) (top : String) (rest : List String) :
    j.follow? (top :: rest) = (j.get? top).bind (·.follow? rest) := by
  rw [Json.follow?]
  cases j.get? top <;> rfl

theorem get?_attrs {key : String} (mem : key ∈ e.kind.schema.attrKeys) :
    Entries.get? key (attrs e) = some (e.attr key) :=
  Entries.get?_map_keys mem

theorem keys_shownBase : Entries.keys (shownBase root e) =
    ["name", "description", "uuid"] ++ e.kind.schema.attrKeys := by
  rw [← keys_attrs e]
  exact List.map_append

theorem attrKeys_own (k : EntityKind) :
    ∀ key ∈ k.schema.attrKeys, key ∉ ["name", "description", "uuid"] := by
  cases k <;> decide

theorem get?_shownBase {key : String} (mem : key ∈ e.kind.schema.attrKeys) :
    Entries.get? key (shownBase root e) = some (e.attr key) := by
  rw [shownBase, Entries.get?_append, get?_none (attrKeys_own e.kind key mem), Option.none_or,
    get?_attrs mem]

/-- Runbooks with places of their own are found in packages and in runbooks only. -/
theorem field_placement {k : EntityKind} {sa : SystemAction} (mem : sa ∈ k.schema.systemActions)
    {path : String} (placed : sa.placement = .field path) : k = .package ∨ k = .runbook := by
  have all : ∀ k ∈ EntityKind.all, ∀ sa ∈ k.schema.systemActions, sa.placement ≠ .actionList →
      k = .package ∨ k = .runbook := by decide
  exact all k (EntityKind.mem_all k) sa mem (by rw [placed]; nofun)

theorem Front.keeps {rest : List (String × Json)} (h : Front p.resolved id e f)
    (placed : ∀ sa ∈ e.kind.schema.systemActions, ∀ path, sa.placement = .field path →
      (Json.obj ((shownBase root e).map f ++ rest)).lookup? path =
        some (shownRunbook ⟨p, id, e, placedAt e sa.name⟩ root)) :
    Keeps p root id e (.obj ((shownBase root e).map f ++ rest)) := by
  have found : ∀ key ∈ e.kind.schema.attrKeys,
      Json.get? key (.obj ((shownBase root e).map f ++ rest)) = some (f (key, e.attr key)).2 := by
    intro key mem
    rw [Json.get?, Entries.get?_append, Entries.get?_map_of_fst h.fst, get?_shownBase mem]
    rfl
  refine ⟨fun top mem rest plain => ?_, fun kind => ?_, placed⟩
  · rw [follow?_cons, found top mem]
    exact h.follow? plain _
  · have mem : "secret" ∈ e.kind.schema.attrKeys := by
      rw [kind]
      decide
    rw [found _ mem]
    cases h with
    | same other => exact (other kind).elim
    | wrapped => rfl
    | login other =>
      rw [kind] at other
      cases other

theorem keeps_plain {rest : List (String × Json)}
    (kind : e.kind ∉ [EntityKind.credential, .package, .runbook]) :
    Keeps p root id e (.obj (shownBase root e ++ rest)) := by
  simp only [List.mem_cons, not_or] at kind
  obtain ⟨credential, package, runbook, -⟩ := kind
  have keeps : Keeps p root id e (.obj ((shownBase root e).map (fun f => f) ++ rest)) :=
    Front.keeps (.same credential) fun sa mem path placed =>
      ((field_placement mem placed).elim package runbook).elim
  rwa [List.map_id'] at keeps

section Kinds

theorem EndsAfter.keeps {own : List (String × Json)} (ends : EndsAfter p root id e own o)
    (kind : e.kind ∉ [EntityKind.credential, .package, .runbook]) : Keeps p root id e o := by
  rw [ends.object]
  exact keeps_plain kind

variable (rooted : p.entity p.resolved.root = .ok root) (found : p.entity id = .ok e)

include rooted

theorem endpoint_keeps (kind : e.kind = .endpoint) (h : p.endpoint id e = .ok o) :
    Keeps p root id e o := by
  obtain ⟨login, -, rfl⟩ := endpoint_ok rooted h
  exact keeps_plain (by simp [kind])

theorem credential_keeps (kind : e.kind = .credential) (h : p.credential e = .ok o) :
    Keeps p root id e o := by
  have keeps : Keeps p root id e (.obj ((shownBase root e).map wrapSecret ++ [])) :=
    Front.keeps (.wrapped kind) fun sa mem path placed => by
      rw [kind] at mem
      cases mem
  rw [List.append_nil] at keeps
  rw [credential_ok rooted h]
  exact keeps

include found

theorem service_keeps (kind : e.kind = .service) (h : p.service id e = .ok o) :
    Keeps p root id e o := by
  obtain ⟨_, -, ends⟩ := service_ok rooted found h
  exact ends.keeps (by simp [kind])

theorem deployment_keeps (kind : e.kind = .deployment) (h : p.deployment id e = .ok o) :
    Keeps p root id e o := by
  obtain ⟨_, _, _, -, -, -, ends⟩ := deployment_ok rooted found h
  exact ends.keeps (by simp [kind])

theorem profile_keeps (kind : e.kind = .profile) (h : p.profile id e = .ok o) :
    Keeps p root id e o := by
  obtain ⟨_, _, -, ends⟩ := profile_ok rooted found h
  exact ends.keeps (by simp [kind])

theorem substrate_keeps (kind : e.kind = .substrate) (h : p.substrate id e = .ok o) :
    Keeps p root id e o := by
  obtain ⟨account, login, -, refers, -, rfl⟩ := substrate_ok rooted found h
  split
  · exact keeps_plain (by simp [kind])
  · rename_i present
    have bound : p.resolved.slot id "credential" ≠ [] := by
      intro none
      rw [none] at refers
      cases refers
      exact present rfl
    refine Front.keeps (.login kind bound login) fun sa mem path placed => ?_
    rcases field_placement mem placed with other | other <;> rw [kind] at other <;> cases other

theorem package_keeps (kind : e.kind = .package) (h : p.package id e = .ok o) :
    Keeps p root id e o := by
  obtain ⟨services, -, -, -, -, rfl⟩ := package_ok rooted found h
  rw [← List.map_id' (shownBase root e)]
  refine Front.keeps (.same (by simp [kind])) fun sa mem path placed => ?_
  have absent : "options" ∉ Entries.keys (shownBase root e) := by
    rw [keys_shownBase, kind]
    decide
  rw [List.map_id']
  rw [kind] at mem
  simp only [EntityKind.schema, EntityKind.packageSchema, List.mem_cons, List.not_mem_nil,
    or_false] at mem
  rcases mem with rfl | rfl <;> cases placed
  · rw [show "options.install_runbook" = "options" ++ "." ++ "install_runbook" by decide,
      Json.lookup?_words (by decide) (by decide), Json.get?, Entries.get?_append,
      get?_none absent]
    rfl
  · rw [show "options.uninstall_runbook" = "options" ++ "." ++ "uninstall_runbook" by decide,
      Json.lookup?_words (by decide) (by decide), Json.get?, Entries.get?_append,
      get?_none absent]
    rfl

theorem definition_keeps (h : p.definition id = .ok o) : Keeps p root id e o := by
  unfold definition at h
  rw [found] at h
  obtain ⟨_, ⟨⟩, h⟩ := bind_ok h
  split at h
  case h_1 kind => exact service_keeps rooted found kind h
  case h_2 kind => exact package_keeps rooted found kind h
  case h_3 kind => exact substrate_keeps rooted found kind h
  case h_4 kind => exact deployment_keeps rooted found kind h
  case h_5 kind => exact profile_keeps rooted found kind h
  case h_6 kind => exact credential_keeps rooted kind h
  case h_7 kind => exact endpoint_keeps rooted kind h
  case h_8 => cases h

omit found in
theorem resources_keeps {j : Json} (h : p.resources = .ok j) :
    Keeps p root p.resolved.root root j := by
  unfold resources at h
  dsimp only at h
  rw [rooted] at h
  obtain ⟨_, ⟨⟩, h⟩ := bind_ok h
  obtain ⟨fields, rendered, h⟩ := bind_ok h
  have isRoot := rootFields_isRoot rendered
  rw [vars_eq rooted] at h
  rw [pure_ok h, List.append_assoc]
  refine ⟨fun top mem rest _ => ?_, fun kind => ?_, fun sa mem path placed => ?_⟩
  · rw [follow?_cons, Json.get?, Entries.get?_append, get?_attrs mem]
    rfl
  · rw [kind] at isRoot
    cases isRoot
  · rcases field_placement mem placed with kind | kind
    · rw [kind] at isRoot
      cases isRoot
    · rw [kind] at mem
      obtain rfl := List.mem_singleton.mp mem
      cases placed
      unfold rootFields at rendered
      rw [kind] at rendered
      obtain ⟨_, shown, rendered⟩ := bind_ok rendered
      obtain ⟨rfl, -⟩ := runbookFor_ok rooted rooted shown
      obtain ⟨_, -, rendered⟩ := bind_ok rendered
      obtain ⟨_, -, rendered⟩ := bind_ok rendered
      obtain ⟨_, -, rendered⟩ := bind_ok rendered
      have absent : "runbook" ∉ Entries.keys (attrs root) := by
        rw [keys_attrs, kind]
        decide
      rw [Json.lookup?_word (by decide), Json.get?, Entries.get?_append, get?_none absent,
        pure_ok rendered]
      rfl

end Kinds

/-! ### Documents -/

theorem lookup?_obj_append {fields : List (String × Json)} {path : String}
    (found : ((Json.obj fields).lookup? path).isSome = true) (more : List (String × Json)) :
    (Json.obj (fields ++ more)).lookup? path = (Json.obj fields).lookup? path := by
  unfold Json.lookup? at found ⊢
  cases steps : Selector.ofPath path with
  | nil => exact (Selector.segments_ne_nil 0 path.toList (List.map_eq_nil_iff.mp steps)).elim
  | cons s ss =>
    rw [steps, Json.navigate?, Json.select?] at found
    rw [Json.navigate?, Json.navigate?, Json.select?, Json.select?, Json.get?, Json.get?,
      Entries.get?_append]
    rw [Json.get?] at found
    cases first : Entries.get? s.field fields with
    | none => cases key : s.key <;> simp [first, key] at found
    | some j => rfl

/-- The parts of a document that paths lead into. -/
theorem document_parts {editables : EditableTree} {doc : Json}
    (h : p.document editables = .ok doc) : ∃ j, p.resources = .ok j ∧
      doc.within? ["spec", "resources"] = some j ∧
      doc.get? "runtime_editables" = some editables.toJson ∧
      ∀ path ∈ editables.paths, (doc.lookup? path).isSome = true := by
  obtain ⟨fields, rendered, h⟩ := bind_ok h
  obtain ⟨_, -, rendered⟩ := bind_ok rendered
  obtain ⟨root, -, rendered⟩ := bind_ok rendered
  obtain ⟨j, made, rendered⟩ := bind_ok rendered
  obtain ⟨metadata, -, rendered⟩ := bind_ok rendered
  obtain rfl := pure_ok rendered
  split at h
  · cases h
  · rename_i complete
    rw [pure_ok h]
    refine ⟨j, made, rfl, rfl, fun path mem => ?_⟩
    have found := List.find?_eq_none.mp complete path mem
    rw [Bool.not_eq_true, Option.isNone_eq_false_iff] at found
    rw [lookup?_obj_append found]
    exact found

end Payload

end Blueprint
