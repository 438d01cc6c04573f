import Blueprint.Proofs.Data.Maps
import Blueprint.Proofs.Data.Partners
import Blueprint.Proofs.Json.Address
import Blueprint.Proofs.Payload.Paths

/-!
# Names of actions

An action is listed under its name in the payload. Those of the system actions are fixed, and a user
action may take one of them.
-/

namespace Blueprint.Payload

open Selector (Word keyed)

variable {e : Entity}

/-! ### Names in the payload -/

/-- A user action that has the name of a listed system action in the payload. -/
def Shadowed (e : Entity) (a : Action) : Prop :=
  a.kind = .user ∧ a.name ∈ (listedSystemActions e).map (·.2)

instance (e : Entity) (a : Action) : Decidable (Shadowed e a) :=
  inferInstanceAs (Decidable (_ ∧ _))

theorem wires (k : EntityKind) : (k.schema.systemActions.map (·.wire)).Nodup ∧
    ∀ sa ∈ k.schema.systemActions, Word sa.wire := by
  have all : ∀ k ∈ EntityKind.all, (k.schema.systemActions.map (·.wire)).Nodup ∧
      ∀ sa ∈ k.schema.systemActions, Word sa.wire := by decide +kernel
  exact all k (EntityKind.mem_all k)

theorem listedSystem_wires (e : Entity) : ((listedSystemActions e).map (·.2)).Nodup := by
  refine (wires e.kind).1.sublist (filterMap_sublist (fun sa a shown => ?_) _)
  split at shown
  · cases shown
  · split at shown
    · rw [← Option.some.inj shown]
    · split at shown
      · rw [← Option.some.inj shown]
      · cases shown

/-- Kinds whose objects list actions. -/
def listingKinds : List EntityKind := [.service, .package, .substrate, .deployment, .profile]

theorem listedOf_listing (kind : e.kind ∈ listingKinds) :
    listedOf e = listedSystemActions e ++ userActions e := by
  simp only [listingKinds, List.mem_cons, List.not_mem_nil, or_false] at kind
  rcases kind with kind | kind | kind | kind | kind <;> rw [listedOf, kind]

theorem listedOf_other (kind : e.kind ∉ listingKinds) : listedOf e = [] := by
  simp only [listingKinds, List.mem_cons, List.not_mem_nil, or_false, not_or] at kind
  unfold listedOf
  split <;> simp_all

theorem listing_of_placement {k : EntityKind} {sa : SystemAction}
    (mem : sa ∈ k.schema.systemActions) (placement : sa.placement = .actionList) :
    k ∈ listingKinds := by
  have all : ∀ k ∈ EntityKind.all, ∀ sa ∈ k.schema.systemActions, sa.placement = .actionList →
      k ∈ listingKinds := by decide
  exact all k (EntityKind.mem_all k) sa mem placement

theorem listing_of_users {k : EntityKind} (concrete : k ≠ .mixin)
    (users : k.schema.userActions = true) : k ∈ listingKinds := by
  have all : ∀ k ∈ EntityKind.all, k ≠ .mixin → k.schema.userActions = true →
      k ∈ listingKinds := by decide
  exact all k (EntityKind.mem_all k) concrete users

theorem listedSystem_other (kind : e.kind ∉ listingKinds) : listedSystemActions e = [] := by
  refine List.filterMap_eq_nil_iff.mpr fun sa mem => ?_
  exact if_pos fun placement => kind (listing_of_placement mem placement)

theorem user_wires : (userActions e).map (·.2) = (userActions e).map fun a => a.1.name := by
  simp [userActions]

/-- The names in an action list differ if no user action takes that of a system action. -/
theorem listed_distinct_iff (named : e.Named)
    (kinds : e.actions.Each fun k a => a.kind = Entity.actionKind e.kind.schema k) :
    ((listedOf e).map (·.2)).Nodup ↔ ∀ a ∈ e.actions.values, ¬Shadowed e a := by
  by_cases kind : e.kind ∈ listingKinds
  · rw [listedOf_listing kind, List.map_append, List.nodup_append']
    have users := (user_names named kinds).1
    rw [← user_wires] at users
    constructor
    · rintro ⟨-, -, apart⟩ a mem ⟨user, taken⟩
      refine apart taken (List.mem_map.mpr ⟨(a, a.name), ?_, rfl⟩)
      exact List.mem_map.mpr ⟨a, List.mem_filter.mpr ⟨mem, by simp [user]⟩, rfl⟩
    · intro clear
      refine ⟨listedSystem_wires e, users, fun wire system other => ?_⟩
      obtain ⟨_, listed, rfl⟩ := List.mem_map.mp other
      obtain ⟨a, inside, rfl⟩ := List.mem_map.mp listed
      obtain ⟨declared, user⟩ := List.mem_filter.mp inside
      exact clear a declared ⟨eq_of_beq user, system⟩
  · rw [listedOf_other kind]
    refine iff_of_true List.nodup_nil fun a mem shadowed => ?_
    have taken := shadowed.2
    rw [listedSystem_other kind] at taken
    cases taken

theorem listed_of_get? {sa : SystemAction} {a : Action}
    (known : sa ∈ e.kind.schema.systemActions) (placement : sa.placement = .actionList)
    (found : e.actions.get? sa.name = some a) : (a, sa.wire) ∈ listedSystemActions e := by
  refine List.mem_filterMap.mpr ⟨sa, known, ?_⟩
  rw [if_neg (by simp [placement]), found]

theorem listedSystem_kind (kinds : e.actions.Each fun k a => a.kind =
    Entity.actionKind e.kind.schema k) : ∀ a ∈ listedSystemActions e, a.1.kind = .system := by
  intro a mem
  obtain ⟨sa, known, shown⟩ := List.mem_filterMap.mp mem
  split at shown
  · cases shown
  · split at shown
    · rename_i found
      have system : (e.kind.schema.systemAction? sa.name).isSome = true :=
        List.find?_isSome.mpr ⟨sa, known, beq_self_eq_true _⟩
      rw [← Option.some.inj shown, kinds _ (Entries.mem_of_get? found), Entity.actionKind,
        if_pos system]
    · split at shown
      · rw [← Option.some.inj shown]
        rfl
      · cases shown

/-- The items of an action list differ in their names or in the kinds of their actions. -/
theorem listed_apart (named : e.Named)
    (kinds : e.actions.Each fun k a => a.kind = Entity.actionKind e.kind.schema k) :
    ((listedOf e).map fun a => (a.2, a.1.kind)).Nodup := by
  by_cases kind : e.kind ∈ listingKinds
  · have users := (user_names named kinds).1
    rw [← user_wires] at users
    rw [listedOf_listing kind, List.map_append, List.nodup_append']
    refine ⟨.of_map Prod.fst ?_, .of_map Prod.fst ?_, fun label system user => ?_⟩
    · rw [List.map_map]
      exact listedSystem_wires e
    · rw [List.map_map]
      exact users
    · obtain ⟨a, listed, rfl⟩ := List.mem_map.mp system
      obtain ⟨b, listed', same⟩ := List.mem_map.mp user
      obtain ⟨b, inside, rfl⟩ := List.mem_map.mp listed'
      have isUser : b.kind = .user := eq_of_beq (List.mem_filter.mp inside).2
      have isSystem : b.kind = a.1.kind := congrArg Prod.snd same
      rw [listedSystem_kind kinds a listed, isUser] at isSystem
      cases isSystem
  · rw [listedOf_other kind]
    exact List.nodup_nil

/-- Where there may be user actions, all system actions are listed. -/
theorem placement_of_users {k : EntityKind} (users : k.schema.userActions = true)
    {sa : SystemAction} (mem : sa ∈ k.schema.systemActions) : sa.placement = .actionList := by
  have all : ∀ k ∈ EntityKind.all, k.schema.userActions = true →
      ∀ sa ∈ k.schema.systemActions, sa.placement = .actionList := by decide
  exact all k (EntityKind.mem_all k) users sa mem

theorem wireName_cases (k : EntityKind) (name : String) :
    (∃ sa ∈ k.schema.systemActions, sa.name = name ∧ k.actionWireName name = sa.wire) ∨
      k.schema.systemAction? name = none ∧ k.actionWireName name = name := by
  rw [EntityKind.actionWireName]
  cases system : k.schema.systemAction? name with
  | some sa =>
    exact .inl ⟨sa, List.mem_of_find?_eq_some system, by simpa using List.find?_some system, rfl⟩
  | none => exact .inr ⟨rfl, rfl⟩

/-- A user action has not the name of a system action that is there, if none is shadowed. -/
theorem user_ne_wire (named : e.Named) (valid : e.validate = .ok ())
    (clear : ∀ a ∈ e.actions.values, ¬Shadowed e a) {sa : SystemAction}
    (known : sa ∈ e.kind.schema.systemActions) (declared : sa.name ∈ e.actions.keys) {n : String}
    (other : n ∈ e.actions.keys) (none : e.kind.schema.systemAction? n = none) : n ≠ sa.wire := by
  rintro rfl
  have concrete : e.kind ≠ .mixin := by
    intro mixin
    rw [mixin] at known
    cases known
  obtain ⟨entry, inside, name⟩ := List.mem_map.mp other
  have user : entry.2.kind = .user := by
    rw [Entity.validate_actions concrete valid entry inside, Entity.actionKind, name, none]
    rfl
  have users := Entity.validate_users concrete valid entry inside user
  obtain ⟨a, found⟩ := Option.isSome_iff_exists.mp ((OrderedMap.contains_iff _ _).mpr declared)
  have listed := listed_of_get? known (placement_of_users users known) found
  refine clear entry.2 (List.mem_map_of_mem inside) ⟨user, ?_⟩
  rw [(named.actions entry inside).name, name]
  exact List.mem_map_of_mem (f := (·.2)) listed

/-- The names that actions have in the payload differ, listed or not, if none is shadowed. -/
theorem wireNames_nodup (named : e.Named) (valid : e.validate = .ok ())
    (clear : ∀ a ∈ e.actions.values, ¬Shadowed e a) :
    (e.actions.values.map fun a => e.kind.actionWireName a.name).Nodup := by
  have names : (e.actions.values.map fun a => e.kind.actionWireName a.name) =
      e.actions.keys.map e.kind.actionWireName := by
    rw [OrderedMap.values, OrderedMap.keys, Entries.keys, List.map_map, List.map_map]
    exact List.map_congr_left fun entry mem =>
      congrArg e.kind.actionWireName (named.actions entry mem).name
  rw [names]
  refine List.Nodup.map_on (fun m known n known' same => ?_) e.actions.nodup
  rcases wireName_cases e.kind m with ⟨sa, system, rfl, wire⟩ | ⟨none, wire⟩ <;>
    rcases wireName_cases e.kind n with ⟨sb, system', rfl, wire'⟩ | ⟨none', wire'⟩ <;>
    rw [wire, wire'] at same
  · exact congrArg _ (List.inj_on_of_nodup_map (wires e.kind).1 system system' same)
  · exact (user_ne_wire named valid clear system known known' none' same.symm).elim
  · exact (user_ne_wire named valid clear system' known' known none same).elim
  · exact same

/-! ### Places of runbooks -/

theorem actionPath_field {k : EntityKind} {name path : String} {sa : SystemAction}
    (system : k.schema.systemAction? name = some sa) (placement : sa.placement = .field path) :
    k.actionPath name = path := by
  obtain ⟨_, _, _⟩ := sa
  cases placement
  rw [EntityKind.actionPath, system]

theorem actionPath_listed (k : EntityKind) (name : String)
    (listed : ∀ sa, k.schema.systemAction? name = some sa → sa.placement = .actionList) :
    k.actionPath name = keyed "action_list" (k.actionWireName name) ++ "." ++ "runbook" := by
  have path : "action_list[" ++ k.actionWireName name ++ "].runbook" =
      keyed "action_list" (k.actionWireName name) ++ "." ++ "runbook" := by
    apply String.toList_inj.mp
    simp [keyed, Selector.text]
  rw [← path, EntityKind.actionPath]
  split
  · rename_i system
    cases listed _ system
  · rfl

/-- An action of a valid entity has a place of its own, or is listed under its name in the payload,
which is a word. -/
theorem action_place (concrete : e.kind ≠ .mixin) (named : e.Named) (valid : e.validate = .ok ())
    {a : Action} (mem : a ∈ e.actions.values) :
    (∃ sa, e.kind.schema.systemAction? a.name = some sa ∧
      sa.placement = .field (e.kind.actionPath a.name) ∧ placedAt e sa.name = a) ∨
    (∀ sa, e.kind.schema.systemAction? a.name = some sa → sa.placement = .actionList) ∧
      Word (e.kind.actionWireName a.name) ∧ (a, e.kind.actionWireName a.name) ∈ listedOf e := by
  obtain ⟨entry, inside, rfl⟩ := List.mem_map.mp mem
  have shape := named.actions entry inside
  have found : e.actions.get? entry.1 = some entry.2 := Entries.get?_of_mem e.actions.nodup inside
  have kind : entry.2.kind = Entity.actionKind e.kind.schema entry.1 :=
    Entity.validate_actions concrete valid entry inside
  rw [shape.name]
  cases system : e.kind.schema.systemAction? entry.1 with
  | some sa =>
    have known : sa ∈ e.kind.schema.systemActions := List.mem_of_find?_eq_some system
    have name : sa.name = entry.1 := by simpa using List.find?_some system
    cases placement : sa.placement with
    | field path =>
      refine .inl ⟨sa, rfl, ?_, ?_⟩
      · rw [placement, actionPath_field system placement]
      · rw [placedAt, name, found]
        rfl
    | actionList =>
      have wire : e.kind.actionWireName entry.1 = sa.wire := by
        rw [EntityKind.actionWireName, system]
      rw [wire, listedOf_listing (listing_of_placement known placement)]
      exact .inr ⟨fun _ same => Option.some.inj same ▸ placement, (wires e.kind).2 sa known,
        List.mem_append_left _ (listed_of_get? known placement (name ▸ found))⟩
  | none =>
    rw [Entity.actionKind, system] at kind
    have users := Entity.validate_users concrete valid entry inside kind
    have wire : e.kind.actionWireName entry.1 = entry.1 := by
      rw [EntityKind.actionWireName, system]
    rw [wire, listedOf_listing (listing_of_users concrete users)]
    refine .inr ⟨fun _ same => (Option.some_ne_none _ same.symm).elim,
      Selector.identifier_word shape.identifier,
      List.mem_append_right _ (List.mem_map.mpr ⟨entry.2, ?_, by rw [shape.name]⟩)⟩
    exact List.mem_filter.mpr ⟨mem, by simp [kind]⟩

/-- Where a runbook has a place of its own, no action is listed. -/
theorem listedOf_placed (concrete : e.kind ≠ .mixin) (valid : e.validate = .ok ())
    {sa : SystemAction} (known : sa ∈ e.kind.schema.systemActions) (placed : sa.placement ≠ .actionList) :
    listedOf e = [] := by
  have all : ∀ k ∈ EntityKind.all, (∃ sa ∈ k.schema.systemActions, sa.placement ≠ .actionList) →
      ∀ sa ∈ k.schema.systemActions, sa.placement ≠ .actionList := by decide
  by_cases kind : e.kind ∈ listingKinds
  · rw [listedOf_listing kind, List.append_eq_nil_iff]
    refine ⟨List.filterMap_eq_nil_iff.mpr fun sa' known' =>
      if_pos (all _ (EntityKind.mem_all _) ⟨sa, known, placed⟩ sa' known'), ?_⟩
    refine List.map_eq_nil_iff.mpr (List.filter_eq_nil_iff.mpr fun a mem user => placed ?_)
    obtain ⟨entry, inside, rfl⟩ := List.mem_map.mp mem
    exact placement_of_users
      (Entity.validate_users concrete valid entry inside (eq_of_beq user)) known
  · exact listedOf_other kind

theorem find?_listed (named : e.Named)
    (kinds : e.actions.Each fun k a => a.kind = Entity.actionKind e.kind.schema k)
    {a : Action} {wire : String} (mem : (a, wire) ∈ listedOf e) (clear : ¬Shadowed e a) :
    ((listedOf e).find? fun x => x.2 == wire) = some (a, wire) := by
  have kind : e.kind ∈ listingKinds := by
    by_contra other
    rw [listedOf_other other] at mem
    cases mem
  rw [listedOf_listing kind] at mem ⊢
  rw [List.find?_append]
  rcases List.mem_append.mp mem with system | user
  · rw [find?_of_nodup (listedSystem_wires e) system rfl]
    rfl
  · obtain ⟨a', inside, same⟩ := List.mem_map.mp user
    obtain ⟨rfl, rfl⟩ := Prod.mk.inj same
    obtain ⟨inside, isUser⟩ := List.mem_filter.mp inside
    have users := (user_names named kinds).1
    rw [← user_wires] at users
    rw [List.find?_eq_none.mpr, Option.none_or, find?_of_nodup users user rfl]
    intro x system same
    exact clear ⟨eq_of_beq isUser, List.mem_map.mpr ⟨x, system, eq_of_beq same⟩⟩

end Blueprint.Payload
