import Blueprint.Proofs.Payload.Fields

/-!
# Slots in objects

Every slot of an entity has a place in its object, for a list of references or for a single one.
The place holds references to the targets of the slot in their order. Only the credential of a
substrate is shown inside an attribute, its readiness probe, and has no place if that is no object.
-/

namespace Blueprint.Payload

/-! ### Places -/

/-- Where an object shows the targets of a slot. -/
inductive SlotPlace where
  | list (field : String)
  /-- A reference or null, at a path of fields. -/
  | single (path : List String)
  deriving DecidableEq, Repr

def SlotPlace.refs (o : Json) : SlotPlace → List Json
  | list field => o.items field
  | single path => (o.within? path).toList.filter fun j => !j.isNull

/-- The places of the slots of each kind that is no root. -/
def slotPlaces : EntityKind → List (String × SlotPlace)
  | .service => [("depends_on", .list "depends_on_list")]
  | .package => [("services", .list "service_local_reference_list")]
  | .substrate =>
    [("credential", .single ["readiness_probe", "login_credential_local_reference"])]
  | .deployment =>
    [("packages", .list "package_local_reference_list"),
      ("substrate", .single ["substrate_local_reference"]),
      ("depends_on", .list "depends_on_list")]
  | .profile => [("deployments", .list "deployment_local_reference_list")]
  | .endpoint => [("credential", .single ["login_credential_local_reference"])]
  | _ => []

def slotPlace? (k : EntityKind) (slot : String) : Option SlotPlace :=
  Entries.get? slot (slotPlaces k)

def SlotPlace.many : SlotPlace → Bool
  | list _ => true
  | single _ => false

/-- A collected kind has a place for each slot of its schema, for as many targets as the slot. -/
theorem slotPlace_of_schema {k : EntityKind} (collected : k.collection?.isSome = true)
    {spec : SlotSpec} (known : spec ∈ k.schema.slots) :
    ∃ place, slotPlace? k spec.name = some place ∧ place.many = spec.many := by
  have all : ∀ k ∈ EntityKind.all, k.collection?.isSome = true → ∀ spec ∈ k.schema.slots,
      (slotPlace? k spec.name).map SlotPlace.many = some spec.many := by decide
  exact Option.map_eq_some_iff.mp (all k (EntityKind.mem_all k) collected spec known)

/-! ### References to targets -/

variable {p : Payload} {root e : Entity} {id : EntityId} {o : Json} {slot : String}

theorem refersTo_nil {ts : List EntityId} : RefersTo p root ts [] ↔ ts = [] :=
  List.forall₂_nil_right_iff

/-- The one target of a slot for one is shown by the reference, or none is by null. -/
theorem RefersToFirst.all {ts : List EntityId} {j : Json} (refers : RefersToFirst p root ts j)
    (single : ts.length ≤ 1) : RefersTo p root ts ([j].filter fun j => !j.isNull) := by
  cases refers with
  | none => exact refersTo_nil.mpr rfl
  | @first t ts e found =>
    obtain rfl : ts = [] := List.length_eq_zero_iff.mp (by simpa using single)
    exact .cons ⟨e, found, rfl⟩ .nil

def hasFields : Json → Bool
  | .obj _ => true
  | _ => false

/-- A substrate whose readiness probe has no fields. -/
def Probeless (e : Entity) : Prop :=
  e.kind = .substrate ∧ hasFields (e.attr "readiness_probe") = false

instance (e : Entity) : Decidable (Probeless e) :=
  inferInstanceAs (Decidable (_ ∧ _))

/-! ### Places by kind -/

theorem get?_after_base {key : String} (mem : key ∈ shownFields) (fields : List (String × Json)) :
    Json.get? key (.obj (shownBase root e ++ fields)) = Json.get? key (.obj fields) := by
  have apart : key ∉ Entries.keys (shownBase root e) := by
    intro inside
    rw [keys_shownBase] at inside
    have other := shownFields_apart e.kind key mem
    simp only [List.cons_append, List.nil_append, List.mem_cons, not_or] at inside other
    tauto
  rw [Json.get?, Json.get?, Entries.get?_append, get?_none apart, Option.none_or]

theorem list_after_base {key : String} (mem : key ∈ shownFields) (fields : List (String × Json)) :
    (SlotPlace.list key).refs (.obj (shownBase root e ++ fields)) =
      (SlotPlace.list key).refs (.obj fields) := by
  rw [SlotPlace.refs, SlotPlace.refs, Json.items, Json.items, get?_after_base mem]

theorem single_after_base {key : String} (mem : key ∈ shownFields)
    (fields : List (String × Json)) :
    (SlotPlace.single [key]).refs (.obj (shownBase root e ++ fields)) =
      (SlotPlace.single [key]).refs (.obj fields) := by
  simp only [SlotPlace.refs, Json.within?, List.foldlM_cons, get?_after_base mem]

/-- An object that shows the targets of every slot at its place, if it has that place. -/
def ShowsSlots (p : Payload) (root : Entity) (id : EntityId) (e : Entity) (o : Json) : Prop :=
  ∀ entry ∈ slotPlaces e.kind, RefersTo p root (p.resolved.slot id entry.1) (entry.2.refs o)

section Kinds

variable (rooted : p.entity p.resolved.root = .ok root) (found : p.entity id = .ok e)

include rooted

theorem endpoint_slots (kind : e.kind = .endpoint) (h : p.endpoint id e = .ok o)
    (single : (p.resolved.slot id "credential").length ≤ 1) : ShowsSlots p root id e o := by
  obtain ⟨login, refers, rfl⟩ := endpoint_ok rooted h
  rw [ShowsSlots, kind]
  refine List.forall_mem_singleton.mpr ?_
  rw [single_after_base (by decide)]
  exact refers.all single

include found

theorem service_slots (kind : e.kind = .service) (h : p.service id e = .ok o) :
    ShowsSlots p root id e o := by
  obtain ⟨dependsOn, refers, ends⟩ := service_ok rooted found h
  rw [ShowsSlots, kind, ends.object]
  refine List.forall_mem_singleton.mpr ?_
  rw [list_after_base (by decide)]
  exact refers

theorem package_slots (kind : e.kind = .package) (h : p.package id e = .ok o) :
    ShowsSlots p root id e o := by
  obtain ⟨services, refers, -, -, -, rfl⟩ := package_ok rooted found h
  rw [ShowsSlots, kind]
  refine List.forall_mem_singleton.mpr ?_
  rw [list_after_base (by decide)]
  exact refers

theorem deployment_slots (kind : e.kind = .deployment) (h : p.deployment id e = .ok o)
    (single : (p.resolved.slot id "substrate").length ≤ 1) : ShowsSlots p root id e o := by
  obtain ⟨packages, substrate, dependsOn, packagesRefer, substrateRefers, dependsOnRefers, ends⟩ :=
    deployment_ok rooted found h
  rw [ShowsSlots, kind, ends.object]
  refine List.forall_mem_cons.mpr ⟨?_, List.forall_mem_cons.mpr ⟨?_,
    List.forall_mem_singleton.mpr ?_⟩⟩
  · rw [list_after_base (by decide)]
    exact packagesRefer
  · rw [single_after_base (by decide)]
    exact substrateRefers.all single
  · rw [list_after_base (by decide)]
    exact dependsOnRefers

theorem profile_slots (kind : e.kind = .profile) (h : p.profile id e = .ok o) :
    ShowsSlots p root id e o := by
  obtain ⟨environments, deployments, refers, ends⟩ := profile_ok rooted found h
  rw [ShowsSlots, kind, ends.object]
  refine List.forall_mem_singleton.mpr ?_
  rw [list_after_base (by decide)]
  exact refers

/-- The place of the credential lies in the probe, so it is there just if the probe has fields. -/
theorem substrate_slots (kind : e.kind = .substrate) (h : p.substrate id e = .ok o)
    (single : (p.resolved.slot id "credential").length ≤ 1)
    (bound : p.resolved.slot id "credential" ≠ []) :
    (¬Probeless e → ShowsSlots p root id e o) ∧
      (Probeless e → ∀ entry ∈ slotPlaces e.kind, entry.2.refs o = []) := by
  obtain ⟨t, ts, e', only, found', probe⟩ := substrate_probe rooted found kind h bound
  rw [only] at single
  obtain rfl : ts = [] := List.length_eq_zero_iff.mp (by simpa using single)
  have shown : (SlotPlace.single ["readiness_probe", "login_credential_local_reference"]).refs o =
      ((withLogin (refTo root e') ("readiness_probe", e.attr "readiness_probe")).2.get?
        "login_credential_local_reference").toList.filter fun j => !j.isNull := by
    rw [SlotPlace.refs, Json.within?, List.foldlM_cons, probe]
    simp only [Option.bind_eq_bind, Option.bind_some, List.foldlM_cons, List.foldlM_nil, bind_pure]
  have place : slotPlaces e.kind = [("credential",
      .single ["readiness_probe", "login_credential_local_reference"])] := by rw [kind]; rfl
  rw [ShowsSlots, place, List.forall_mem_singleton, List.forall_mem_singleton, shown, only]
  cases attr : e.attr "readiness_probe" with
  | obj fields =>
    refine ⟨fun _ => ?_, fun probeless => ?_⟩
    · rw [withLogin, Json.get?, Entries.get?_put, if_pos rfl]
      exact .cons ⟨e', found', rfl⟩ .nil
    · have fieldless := probeless.2
      rw [attr] at fieldless
      cases fieldless
  | null | bool | int | float | str | arr =>
    refine ⟨fun probed => (probed ⟨kind, ?_⟩).elim, fun _ => rfl⟩
    rw [attr]
    rfl

/-- A definition shows the targets of every slot, but for the credential of a substrate without
probe, which it shows nowhere. -/
theorem definition_slots (h : p.definition id = .ok o)
    (single : ∀ slot place, slotPlace? e.kind slot = some place → place.many = false →
      (p.resolved.slot id slot).length ≤ 1)
    {place : SlotPlace} (placed : slotPlace? e.kind slot = some place)
    (bound : p.resolved.slot id slot ≠ []) :
    (¬Probeless e → RefersTo p root (p.resolved.slot id slot) (place.refs o)) ∧
      (Probeless e → place.refs o = []) := by
  have mem : (slot, place) ∈ slotPlaces e.kind := Entries.mem_of_get? placed
  have probed (other : e.kind ≠ .substrate) (shows : ShowsSlots p root id e o) :
      (¬Probeless e → RefersTo p root (p.resolved.slot id slot) (place.refs o)) ∧
        (Probeless e → place.refs o = []) :=
    ⟨fun _ => shows _ mem, fun probeless => (other probeless.1).elim⟩
  unfold definition at h
  rw [found] at h
  obtain ⟨_, ⟨⟩, h⟩ := bind_ok h
  split at h
  case h_1 kind => exact probed (by rw [kind]; decide) (service_slots rooted found kind h)
  case h_2 kind => exact probed (by rw [kind]; decide) (package_slots rooted found kind h)
  case h_3 kind =>
    rw [kind] at single mem
    obtain ⟨rfl, rfl⟩ := Prod.mk.inj (List.mem_singleton.mp mem)
    obtain ⟨shows, hides⟩ := substrate_slots rooted found kind h (single "credential" _ rfl rfl) bound
    rw [ShowsSlots, kind] at shows
    rw [kind] at hides
    exact ⟨fun probe => shows probe _ mem, fun probeless => hides probeless _ mem⟩
  case h_4 kind =>
    rw [kind] at single
    exact probed (by rw [kind]; decide) (deployment_slots rooted found kind h
      (single "substrate" _ rfl rfl))
  case h_5 kind => exact probed (by rw [kind]; decide) (profile_slots rooted found kind h)
  case h_6 kind =>
    rw [kind] at mem
    cases mem
  case h_7 kind =>
    rw [kind] at single
    exact probed (by rw [kind]; decide) (endpoint_slots rooted kind h
      (single "credential" _ rfl rfl))
  case h_8 => cases h

end Kinds

end Blueprint.Payload
