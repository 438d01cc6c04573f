import Blueprint.Proofs.Data.Maps
import Blueprint.Proofs.Graph.Meaning

/-!
# Neighbours

What an entity refers to, in its slots and through the targets of its tasks. `bindReferences_iff`
says when the references of an entity can be bound, and to what.
-/

namespace Blueprint

/-! ### References of an entity -/

namespace Entity

variable {e : Entity} {g : EntityGraph} {id t : EntityId} {n : TaskNode}

/-- Everything a task may run on: what its own reference means, or else, if it has to run on
something, the default of its entity. -/
inductive RunsOn (e : Entity) (g : EntityGraph) (id : EntityId) (n : TaskNode) : EntityId → Prop where
  | own {r : Ref} {t : EntityId} (target : n.target = some r) (means : r.Means g t) : RunsOn e g id n t
  | self (target : n.target = none) (needs : n.needsTarget = true)
      (default : e.kind.schema.defaultTarget = .self) : RunsOn e g id n id
  | slot {slot : String} {r : Ref} {rs : List Ref} {t : EntityId} (target : n.target = none)
      (needs : n.needsTarget = true) (default : e.kind.schema.defaultTarget = .slot slot)
      (first : e.references.get? slot = some (r :: rs)) (means : r.Means g t) : RunsOn e g id n t

def taskTarget? (e : Entity) (g : EntityGraph) (id : EntityId) (n : TaskNode) : Option EntityId :=
  match n.target with
  | some r => r.meaning? g
  | none =>
    if n.needsTarget then
      match e.kind.schema.defaultTarget with
      | .self => some id
      | .slot slot => ((e.references.get? slot).getD []).head?.bind (·.meaning? g)
      | .none => none
    else none

theorem taskTarget?_eq_some : e.taskTarget? g id n = some t ↔ e.RunsOn g id n t := by
  unfold taskTarget?
  constructor
  · intro h
    split at h
    · rename_i r target
      exact .own target (Ref.meaning?_eq_some.mp h)
    · rename_i target
      split at h
      · rename_i needs
        split at h
        · rename_i default
          exact Option.some.inj h ▸ .self target needs default
        · rename_i slot default
          obtain ⟨r, first, means⟩ := Option.bind_eq_some_iff.mp h
          cases listed : e.references.get? slot with
          | none => simp [listed] at first
          | some refs =>
            obtain ⟨rs, rfl⟩ : ∃ rs, refs = r :: rs := by
              simpa [listed, List.head?_eq_some_iff] using first
            exact .slot target needs default listed (Ref.meaning?_eq_some.mp means)
        · cases h
      · cases h
  · intro h
    cases h with
    | own target means => rw [target]; exact Ref.meaning?_eq_some.mpr means
    | self target needs default => rw [target, default]; simp [needs]
    | slot target needs default first means =>
      rw [target, default]
      simp [needs, first, Ref.meaning?_eq_some.mpr means]

def boundSlots (e : Entity) (g : EntityGraph) : OrderedMap (List EntityId) :=
  e.references.mapValues fun refs => refs.filterMap (·.meaning? g)

def boundTargets (e : Entity) (g : EntityGraph) (id : EntityId) : List TaskTarget :=
  e.actions.entries.flatMap fun (name, a) =>
    a.tree.allNodes.filterMap fun n => (e.taskTarget? g id n).map fun t => ⟨name, n.name, t⟩

/-- A task that runs on something of the right kind, if it has to run on anything. -/
structure TaskBinds (e : Entity) (g : EntityGraph) (id : EntityId) (n : TaskNode) : Prop where
  runs : n.target.isSome = true ∨ n.needsTarget = true → ∃ t, e.RunsOn g id n t
  kind : ∀ t, e.RunsOn g id n t → ∀ k, n.targetKind? = some k →
    ∃ e', g.entity? t = some e' ∧ e'.kind = k

/-- An entity all of whose references can be bound. -/
structure Binds (e : Entity) (g : EntityGraph) (id : EntityId) : Prop where
  slots : ∀ entry ∈ e.references.entries, ∀ r ∈ entry.2, ∃ t, r.Means g t
  required : ∀ s ∈ e.kind.schema.slots, s.required = true →
    ((e.boundSlots g).get? s.name).getD [] ≠ []
  tasks : ∀ entry ∈ e.actions.entries, ∀ n ∈ entry.2.tree.allNodes, e.TaskBinds g id n

/-! ### Slots -/

theorem mapM_resolve (source : String) {refs : List Ref} (h : ∀ r ∈ refs, ∃ t, r.Means g t) :
    refs.mapM (·.resolve g source) = .ok (refs.filterMap (·.meaning? g)) := by
  induction refs with
  | nil => rfl
  | cons r refs ih =>
    obtain ⟨⟨t, means⟩, rest⟩ := List.forall_mem_cons.mp h
    rw [List.mapM_cons, Ref.resolve_ok_iff.mpr means, ih rest, List.filterMap_cons,
      Ref.meaning?_eq_some.mpr means]
    rfl

theorem bindSlots_ok {slots : OrderedMap (List EntityId)} (h : e.bindSlots g = .ok slots) :
    (∀ entry ∈ e.references.entries, ∀ r ∈ entry.2, ∃ t, r.Means g t) ∧ slots = e.boundSlots g := by
  have means : ∀ entry ∈ e.references.entries, ∀ r ∈ entry.2, ∃ t, r.Means g t := by
    intro entry mem r listed
    obtain ⟨ids, resolved⟩ := OrderedMap.fill_all h entry mem
    obtain ⟨t, found⟩ := mapM_ok_all resolved r listed
    exact ⟨t, Ref.resolve_ok_iff.mp found⟩
  refine ⟨means, ?_⟩
  have filled := OrderedMap.fill_mapValues (m := e.references)
    fun entry mem => mapM_resolve e.key.text (means entry mem)
  exact Except.ok.inj (h.symm.trans filled)

theorem bindSlots_eq (h : ∀ entry ∈ e.references.entries, ∀ r ∈ entry.2, ∃ t, r.Means g t) :
    e.bindSlots g = .ok (e.boundSlots g) :=
  OrderedMap.fill_mapValues fun entry mem => mapM_resolve _ (h entry mem)

theorem checkRequired_ok_iff {slots : OrderedMap (List EntityId)} :
    e.checkRequired slots = .ok () ↔ ∀ s ∈ e.kind.schema.slots, s.required = true →
      (slots.get? s.name).getD [] ≠ [] := by
  unfold checkRequired
  split
  · rename_i s found
    have missing := List.find?_some found
    simp only [Bool.and_eq_true, List.isEmpty_iff] at missing
    constructor
    · intro h
      cases h
    · intro h
      exact (h s (List.mem_of_find?_eq_some found) missing.1 missing.2).elim
  · rename_i none
    have bound := List.find?_eq_none.mp none
    refine ⟨fun _ s mem required empty => bound s mem ?_, fun _ => rfl⟩
    simp [required, empty]

theorem head?_boundSlots (means : ∀ entry ∈ e.references.entries, ∀ r ∈ entry.2, ∃ t, r.Means g t)
    (slot : String) : (((e.boundSlots g).get? slot).getD []).head? =
      ((e.references.get? slot).getD []).head?.bind (·.meaning? g) := by
  rw [boundSlots, OrderedMap.get?_mapValues]
  cases listed : e.references.get? slot with
  | none => rfl
  | some refs =>
    cases refs with
    | nil => rfl
    | cons r rs =>
      obtain ⟨t, first⟩ := means _ (Entries.mem_of_get? listed) r List.mem_cons_self
      have meaning := Ref.meaning?_eq_some.mpr first
      simp [meaning]

/-! ### Tasks -/

section Tasks

variable (means : ∀ entry ∈ e.references.entries, ∀ r ∈ entry.2, ∃ t, r.Means g t) {scope : String}

include means

theorem taskTarget?_default (own : n.target = none) (needs : n.needsTarget = true)
    (found : e.defaultTarget id (e.boundSlots g) n.name = .ok t) : e.taskTarget? g id n = some t := by
  unfold taskTarget?
  unfold defaultTarget at found
  rw [own]
  cases default : e.kind.schema.defaultTarget with
  | self =>
    simp only [default] at found
    simp [needs, Except.ok.inj found]
  | slot slot =>
    simp only [default] at found
    rw [head?_boundSlots means] at found
    split at found
    · rename_i t' first
      simp [needs, first, Except.ok.inj found]
    · cases found
  | none =>
    simp only [default] at found
    cases found

theorem bindTask_ok {target : Option EntityId}
    (h : e.bindTask g id (e.boundSlots g) scope n = .ok target) :
    target = e.taskTarget? g id n ∧
      (n.target.isSome = true ∨ n.needsTarget = true → ∃ t, e.RunsOn g id n t) := by
  have runs : target = e.taskTarget? g id n → target.isSome = true →
      (n.target.isSome = true ∨ n.needsTarget = true → ∃ t, e.RunsOn g id n t) := by
    intro same some _
    obtain ⟨t, found⟩ := Option.isSome_iff_exists.mp some
    exact ⟨t, taskTarget?_eq_some.mp (same ▸ found)⟩
  have bound : target = e.taskTarget? g id n ∧
      (target = none → n.target = none ∧ n.needsTarget = false) := by
    unfold bindTask at h
    split at h
    · rename_i r own
      obtain ⟨t, resolved, rfl⟩ := map_ok h
      rw [taskTarget?, own]
      exact ⟨(Ref.meaning?_of_resolve resolved).symm, nofun⟩
    · rename_i own
      split at h
      · rename_i needs
        obtain ⟨t, found, rfl⟩ := map_ok (mapError_ok h)
        exact ⟨(taskTarget?_default means own needs found).symm, nofun⟩
      · rename_i needs
        rw [taskTarget?, own]
        dsimp only
        rw [if_neg needs]
        exact ⟨(Except.ok.inj h).symm, fun _ => ⟨rfl, by simpa using needs⟩⟩
  refine ⟨bound.1, ?_⟩
  cases target with
  | some t => exact runs bound.1 rfl
  | none =>
    obtain ⟨own, needs⟩ := bound.2 rfl
    rw [own, needs]
    simp

theorem bindTask_eq (h : n.target.isSome = true ∨ n.needsTarget = true → ∃ t, e.RunsOn g id n t) :
    e.bindTask g id (e.boundSlots g) scope n = .ok (e.taskTarget? g id n) := by
  by_cases wants : n.target.isSome = true ∨ n.needsTarget = true
  · obtain ⟨t, runs⟩ := h wants
    rw [taskTarget?_eq_some.mpr runs]
    unfold bindTask
    cases runs with
    | own target means =>
      rw [target]
      dsimp only
      rw [Ref.resolve_ok_iff.mpr means]
      rfl
    | self target needs default =>
      rw [target]
      dsimp only
      rw [if_pos needs, defaultTarget, default]
      rfl
    | @slot slot r rs t target needs default first means' =>
      rw [target]
      dsimp only
      have head : (((e.boundSlots g).get? slot).getD []).head? = some t := by
        rw [head?_boundSlots means, first]
        exact Ref.meaning?_eq_some.mpr means'
      rw [if_pos needs, defaultTarget, default]
      dsimp only
      rw [head]
      rfl
  · obtain ⟨target, needs⟩ := not_or.mp wants
    have target : n.target = none := by simpa using target
    rw [bindTask, taskTarget?, target]
    dsimp only
    rw [if_neg needs, if_neg needs]

omit means in
theorem checkTarget_ok_iff {e' : Entity} (found : g.entity? t = some e') :
    checkTarget g scope n t = .ok () ↔ ∀ k, n.targetKind? = some k → e'.kind = k := by
  unfold checkTarget
  rw [EntityGraph.entity_ok.mpr found]
  dsimp only [bind, Except.bind]
  split
  · rename_i k wanted
    split
    · rename_i same
      exact ⟨fun _ k' other => Option.some.inj (wanted.symm.trans other) ▸ same, fun _ => rfl⟩
    · rename_i other
      exact ⟨nofun, fun h => (other (h k wanted)).elim⟩
  · rename_i none
    exact ⟨fun _ k other => (nomatch none.symm.trans other), fun _ => rfl⟩

end Tasks

/-! ### Actions -/

/-- What `bindAction` does with one task. -/
def bindStep (e : Entity) (g : EntityGraph) (id : EntityId) (slots : OrderedMap (List EntityId))
    (name : String) (n : TaskNode) : Except CompileError (Option TaskTarget) := do
  match ← e.bindTask g id slots (e.actionScope name) n with
  | some target =>
    checkTarget g (e.actionScope name) n target
    return some ⟨name, n.name, target⟩
  | none => return none

theorem bindAction_eq_bindStep {slots : OrderedMap (List EntityId)} {name : String} {a : Action} :
    e.bindAction g id slots name a = (do
      let steps ← a.tree.allNodes.mapM (e.bindStep g id slots name)
      return steps.filterMap fun t => t) := rfl

section Actions

variable (found : g.entity? id = some e)
  (means : ∀ entry ∈ e.references.entries, ∀ r ∈ entry.2, ∃ t, r.Means g t)

include found

theorem RunsOn.entity? (h : e.RunsOn g id n t) : ∃ e', g.entity? t = some e' := by
  cases h with
  | own _ means =>
    obtain ⟨e', declared, -⟩ := means.entity?
    exact ⟨e', declared⟩
  | self => exact ⟨e, found⟩
  | slot _ _ _ _ means =>
    obtain ⟨e', declared, -⟩ := means.entity?
    exact ⟨e', declared⟩

include means

theorem bindStep_ok {name : String} {step : Option TaskTarget}
    (h : e.bindStep g id (e.boundSlots g) name n = .ok step) :
    e.TaskBinds g id n ∧ step = (e.taskTarget? g id n).map fun t => ⟨name, n.name, t⟩ := by
  obtain ⟨target, bound, h⟩ := bind_ok h
  obtain ⟨same, runs⟩ := bindTask_ok means bound
  rw [← same]
  cases target with
  | none =>
    refine ⟨⟨runs, fun t on => ?_⟩, pure_ok h⟩
    rw [← taskTarget?_eq_some, ← same] at on
    cases on
  | some target =>
    obtain ⟨_, checked, h⟩ := bind_ok h
    refine ⟨⟨runs, fun t on k wants => ?_⟩, pure_ok h⟩
    obtain rfl : target = t := by
      rw [← taskTarget?_eq_some, ← same] at on
      exact Option.some.inj on
    obtain ⟨e', declared⟩ := on.entity? found
    exact ⟨e', declared, (checkTarget_ok_iff declared).mp checked k wants⟩

theorem bindStep_eq {name : String} (h : e.TaskBinds g id n) :
    e.bindStep g id (e.boundSlots g) name n =
      .ok ((e.taskTarget? g id n).map fun t => ⟨name, n.name, t⟩) := by
  rw [bindStep, bindTask_eq means h.runs]
  cases on : e.taskTarget? g id n with
  | none => rfl
  | some t =>
    have runs := taskTarget?_eq_some.mp on
    obtain ⟨e', declared⟩ := runs.entity? found
    have checked : checkTarget g (e.actionScope name) n t = .ok () := by
      refine (checkTarget_ok_iff declared).mpr fun k wants => ?_
      obtain ⟨e'', declared', kind⟩ := h.kind t runs k wants
      rw [Option.some.inj (declared.symm.trans declared'), kind]
    dsimp only [bind, Except.bind]
    rw [checked]
    rfl

theorem bindAction_ok {name : String} {a : Action} {targets : List TaskTarget}
    (h : e.bindAction g id (e.boundSlots g) name a = .ok targets) :
    (∀ n ∈ a.tree.allNodes, e.TaskBinds g id n) ∧ targets = a.tree.allNodes.filterMap fun n =>
      (e.taskTarget? g id n).map fun t => ⟨name, n.name, t⟩ := by
  obtain ⟨steps, walked, h⟩ := bind_ok (bindAction_eq_bindStep ▸ h)
  have same := mapM_ok_eq (fun n _ step walked => (bindStep_ok found means walked).2) walked
  refine ⟨fun n mem => ?_, ?_⟩
  · obtain ⟨step, walked⟩ := mapM_ok_all walked n mem
    exact (bindStep_ok found means walked).1
  · rw [pure_ok h, same, List.filterMap_map]
    rfl

theorem bindAction_eq (name : String) {a : Action}
    (h : ∀ n ∈ a.tree.allNodes, e.TaskBinds g id n) :
    e.bindAction g id (e.boundSlots g) name a = .ok (a.tree.allNodes.filterMap fun n =>
      (e.taskTarget? g id n).map fun t => ⟨name, n.name, t⟩) := by
  rw [bindAction_eq_bindStep, mapM_eq_ok fun n mem => bindStep_eq found means (h n mem)]
  dsimp only [bind, Except.bind, pure, Except.pure]
  rw [List.filterMap_map]
  rfl

omit means

/-- The references of an entity are bound exactly if they can be, and then to what they mean. -/
theorem bindReferences_iff {b : Binding} :
    e.bindReferences g id = .ok b ↔
      e.Binds g id ∧ b = ⟨e.boundSlots g, e.boundTargets g id⟩ := by
  constructor
  · intro h
    obtain ⟨slots, bound, h⟩ := bind_ok h
    obtain ⟨means, rfl⟩ := bindSlots_ok bound
    obtain ⟨_, required, h⟩ := bind_ok h
    obtain ⟨targets, walked, h⟩ := bind_ok h
    have same := mapM_ok_eq (fun entry _ ts walked => (bindAction_ok found means walked).2) walked
    refine ⟨⟨means, checkRequired_ok_iff.mp required, fun entry mem => ?_⟩, ?_⟩
    · obtain ⟨ts, walked⟩ := mapM_ok_all walked entry mem
      exact (bindAction_ok found means walked).1
    · rw [pure_ok h, same, boundTargets, List.flatMap]
  · rintro ⟨⟨means, required, tasks⟩, rfl⟩
    have walked := mapM_eq_ok fun entry mem =>
      bindAction_eq found means entry.1 (tasks entry mem)
    rw [bindReferences, bindSlots_eq means]
    dsimp only [bind, Except.bind]
    rw [checkRequired_ok_iff.mpr required]
    dsimp only
    rw [walked, boundTargets, List.flatMap]
    rfl

end Actions

/-- What the slots and the tasks of an entity mean, in this order. -/
def neighbours (e : Entity) (g : EntityGraph) (id : EntityId) : List EntityId :=
  (e.references.values.flatMap fun refs => refs.filterMap (·.meaning? g)) ++
    e.actions.values.flatMap fun a => a.tree.allNodes.filterMap (e.taskTarget? g id)

theorem neighbours_bound :
    (⟨e.boundSlots g, e.boundTargets g id⟩ : Binding).neighbours = e.neighbours g id := by
  have slots : (e.boundSlots g).values.flatten =
      e.references.values.flatMap fun refs => refs.filterMap (·.meaning? g) := by
    rw [boundSlots, OrderedMap.values_mapValues, List.flatMap]
  have targets : (e.boundTargets g id).map (·.target) =
      e.actions.values.flatMap fun a => a.tree.allNodes.filterMap (e.taskTarget? g id) := by
    rw [boundTargets, List.map_flatMap, OrderedMap.values, List.flatMap_map]
    refine List.flatMap_congr fun entry _ => ?_
    rw [List.map_filterMap]
    refine List.filterMap_congr fun n _ => ?_
    cases e.taskTarget? g id n <;> rfl
  rw [Binding.neighbours, slots, targets, neighbours]

end Entity

namespace EntityGraph

/-- One entity refers to another, in a slot or as what a task of its actions runs on. -/
inductive Refers (g : EntityGraph) (a b : EntityId) : Prop where
  | slot {e : Entity} {refs : List Ref} {r : Ref} (declared : g.entity? a = some e)
      (slot : refs ∈ e.references.values) (listed : r ∈ refs) (means : r.Means g b)
  | task {e : Entity} {action : Action} {n : TaskNode} (declared : g.entity? a = some e)
      (declares : action ∈ e.actions.values) (node : n ∈ action.tree.allNodes)
      (runs : e.RunsOn g a n b)

/-- What an entity refers to: its slots in order, then the tasks of its actions, depth first. -/
def neighbours (g : EntityGraph) (id : EntityId) : List EntityId :=
  match g.entity? id with
  | some e => e.neighbours g id
  | none => []

variable {g : EntityGraph} {a b : EntityId}

theorem neighbours_eq {e : Entity} (declared : g.entity? a = some e) :
    g.neighbours a = e.neighbours g a := by
  rw [neighbours, declared]

theorem mem_neighbours : b ∈ g.neighbours a ↔ g.Refers a b := by
  unfold neighbours
  constructor
  · intro mem
    split at mem
    · rename_i e declared
      rcases List.mem_append.mp mem with mem | mem
      · obtain ⟨refs, slot, mem⟩ := List.mem_flatMap.mp mem
        obtain ⟨r, listed, means⟩ := List.mem_filterMap.mp mem
        exact .slot declared slot listed (Ref.meaning?_eq_some.mp means)
      · obtain ⟨action, declares, mem⟩ := List.mem_flatMap.mp mem
        obtain ⟨n, node, runs⟩ := List.mem_filterMap.mp mem
        exact .task declared declares node (Entity.taskTarget?_eq_some.mp runs)
    · cases mem
  · intro refers
    cases refers with
    | slot declared slot listed means =>
      rw [declared]
      exact List.mem_append_left _ (List.mem_flatMap.mpr
        ⟨_, slot, List.mem_filterMap.mpr ⟨_, listed, Ref.meaning?_eq_some.mpr means⟩⟩)
    | task declared declares node runs =>
      rw [declared]
      exact List.mem_append_right _ (List.mem_flatMap.mpr
        ⟨_, declares, List.mem_filterMap.mpr ⟨_, node, Entity.taskTarget?_eq_some.mpr runs⟩⟩)

theorem Refers.declared (h : g.Refers a b) : ∃ e, g.entity? b = some e := by
  cases h with
  | slot _ _ _ means =>
    obtain ⟨e, declared, -⟩ := means.entity?
    exact ⟨e, declared⟩
  | task declared _ _ runs => exact runs.entity? declared

end EntityGraph

end Blueprint
