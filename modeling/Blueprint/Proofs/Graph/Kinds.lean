import Blueprint.Compile
import Blueprint.Proofs.Builder.Order
import Blueprint.Proofs.Entity.Valid
import Blueprint.Proofs.Graph.Calls
import Blueprint.Proofs.Graph.Refusals

/-!
# Graphs of valid entities

What validation has checked of the references of an entity, by their keys, holds of the entities
that they are bound to. `resolveGraph_kinds` says so of every reachable entity that is no mixin, and
what is left that can keep such an entity from being bound.
-/

namespace Blueprint

variable {g : EntityGraph} {id : EntityId} {e : Entity} {n : TaskNode}

/-- Only scaling asks for a kind, and that is a deployment. -/
theorem TaskNode.targetKind?_eq_some {k : EntityKind} : n.targetKind? = some k ↔
    k = .deployment ∧ ∃ head direction count, n = .leaf head (.scaling direction count) := by
  constructor
  · intro wants
    cases n with
    | leaf head w =>
      cases w with
      | scaling direction count => exact ⟨(Option.some.inj wants).symm, head, direction, count, rfl⟩
      | exec | setVariable | http | delay | input => cases wants
    | decision | loop => cases wants
  · rintro ⟨rfl, head, direction, count, rfl⟩
    rfl

namespace Entity

/-! ### Slots -/

/-- Slots that hold what the schema of the entity asks for, in the order of its references. -/
structure WellSlotted (e : Entity) (g : EntityGraph) (slots : OrderedMap (List EntityId)) :
    Prop where
  keys : slots.keys = e.references.keys
  means : ∀ entry ∈ slots.entries, ∃ refs, e.references.get? entry.1 = some refs ∧
    List.Forall₂ (fun r t => r.Means g t) refs entry.2
  kinds : ∀ entry ∈ slots.entries, ∃ spec ∈ e.kind.schema.slots, spec.name = entry.1 ∧
    (∀ t ∈ entry.2, ∃ e', g.entity? t = some e' ∧ e'.kind = spec.target) ∧
    (spec.many = false → entry.2.length ≤ 1)
  required : ∀ spec ∈ e.kind.schema.slots, spec.required = true →
    ∃ t ts, slots.get? spec.name = some (t :: ts)

theorem forall₂_meanings {refs : List Ref} (means : ∀ r ∈ refs, ∃ t, r.Means g t) :
    List.Forall₂ (fun r t => r.Means g t) refs (refs.filterMap (·.meaning? g)) := by
  induction refs with
  | nil => exact .nil
  | cons r refs ih =>
    obtain ⟨⟨t, first⟩, rest⟩ := List.forall_mem_cons.mp means
    rw [List.filterMap_cons, Ref.meaning?_eq_some.mpr first]
    exact .cons first (ih rest)

theorem Binds.wellSlotted (binds : e.Binds g id) (concrete : e.kind ≠ .mixin)
    (valid : e.validate = .ok ()) : e.WellSlotted g (e.boundSlots g) where
  keys := OrderedMap.keys_mapValues _ _
  means := by
    intro entry mem
    obtain ⟨⟨slot, refs⟩, declares, rfl⟩ := List.mem_map.mp mem
    exact ⟨refs, Entries.get?_of_mem e.references.nodup declares,
      forall₂_meanings (binds.slots _ declares)⟩
  kinds := by
    intro entry mem
    obtain ⟨⟨slot, refs⟩, declares, rfl⟩ := List.mem_map.mp mem
    obtain ⟨spec, fits⟩ := validate_slots concrete valid _ declares
    refine ⟨spec, fits.known, fits.named, fun t held => ?_, fun single => ?_⟩
    · obtain ⟨r, listed, means⟩ := List.mem_filterMap.mp held
      obtain ⟨e', found, same⟩ := (Ref.meaning?_eq_some.mp means).entity?
      exact ⟨e', found, (congrArg EntityKey.kind same).trans (fits.kinds r listed)⟩
    · exact Nat.le_trans (List.length_filterMap_le _ _) (fits.single single)
  required := by
    intro spec known required
    have some := binds.required spec known required
    cases held : (e.boundSlots g).get? spec.name with
    | none => simp [held] at some
    | some ids =>
      cases ids with
      | nil => simp [held] at some
      | cons t ts => exact ⟨t, ts, rfl⟩

/-! ### Tasks -/

/-- Trees that task builders have finished. -/
def BuiltTrees (e : Entity) : Prop :=
  ∀ entry ∈ e.actions.entries, ∃ declared, entry.2.tree.Built declared

/-- Every task is bound to what it runs on, a scaling task to a deployment; what has nothing to run
on, and need not, is left unbound. -/
def WellTargeted (e : Entity) (g : EntityGraph) (id : EntityId) (b : Binding) : Prop :=
  ∀ entry ∈ e.actions.entries, ∀ n ∈ entry.2.tree.allNodes,
    (∃ t e', b.target? entry.1 n.name = some t ∧ e.RunsOn g id n t ∧ g.entity? t = some e' ∧
      ∀ head direction count, n = .leaf head (.scaling direction count) → e'.kind = .deployment) ∨
    (b.target? entry.1 n.name = none ∧ n.target = none ∧ n.needsTarget = false)

theorem mem_boundTargets {target : TaskTarget} : target ∈ e.boundTargets g id ↔
    ∃ entry ∈ e.actions.entries, ∃ n ∈ entry.2.tree.allNodes, ∃ t, e.RunsOn g id n t ∧
      target = ⟨entry.1, n.name, t⟩ := by
  simp only [boundTargets, List.mem_flatMap, List.mem_filterMap, Option.map_eq_some_iff,
    taskTarget?_eq_some, @eq_comm _ target]

/-- Where the tasks of an action can be told apart, looking one up finds what it runs on. -/
theorem target?_bound {entry : String × Action} (declares : entry ∈ e.actions.entries)
    (distinct : (entry.2.tree.allNodes.map TaskNode.name).Nodup)
    (node : n ∈ entry.2.tree.allNodes) :
    (⟨e.boundSlots g, e.boundTargets g id⟩ : Binding).target? entry.1 n.name =
      e.taskTarget? g id n := by
  have only : ∀ target ∈ e.boundTargets g id, target.action = entry.1 → target.task = n.name →
      e.taskTarget? g id n = some target.target := by
    intro target mem action task
    obtain ⟨other, declares', m, node', t, runs, rfl⟩ := mem_boundTargets.mp mem
    obtain rfl := List.inj_on_of_nodup_map e.actions.nodup declares' declares action
    obtain rfl := List.inj_on_of_nodup_map distinct node' node task
    exact taskTarget?_eq_some.mpr runs
  rw [Binding.target?]
  cases first : (e.boundTargets g id).find? fun t => t.action == entry.1 && t.task == n.name with
  | some target =>
    have here := List.find?_some first
    rw [Bool.and_eq_true, beq_iff_eq, beq_iff_eq] at here
    exact (only target (List.mem_of_find?_eq_some first) here.1 here.2).symm
  | none =>
    refine (Option.eq_none_iff_forall_ne_some.mpr fun t on => ?_).symm
    have bound := mem_boundTargets.mpr ⟨entry, declares, n, node, t, taskTarget?_eq_some.mp on, rfl⟩
    exact List.find?_eq_none.mp first _ bound (by simp)

theorem Binds.wellTargeted (binds : e.Binds g id) (found : g.entity? id = some e)
    (built : e.BuiltTrees) : e.WellTargeted g id ⟨e.boundSlots g, e.boundTargets g id⟩ := by
  intro entry declares n node
  have bound := binds.tasks entry declares n node
  obtain ⟨_, tree⟩ := built entry declares
  rw [target?_bound declares (built_names tree) node]
  cases on : e.taskTarget? g id n with
  | some t =>
    have runs := taskTarget?_eq_some.mp on
    obtain ⟨e', declared⟩ := runs.entity? found
    refine .inl ⟨t, e', rfl, runs, declared, fun head direction count scaling => ?_⟩
    obtain ⟨e'', declared', kind⟩ := bound.kind t runs .deployment
      (TaskNode.targetKind?_eq_some.mpr ⟨rfl, head, direction, count, scaling⟩)
    rw [Option.some.inj (declared.symm.trans declared'), kind]
  | none =>
    have idle : ¬(n.target.isSome = true ∨ n.needsTarget = true) := fun wants => by
      obtain ⟨t, runs⟩ := bound.runs wants
      rw [taskTarget?_eq_some.mpr runs] at on
      cases on
    obtain ⟨own, needs⟩ := not_or.mp idle
    exact .inr ⟨rfl, by simpa using own, by simpa using needs⟩

/-! ### What is left to fail -/

/-- A reference that an entity makes, in a slot or as the target of a task. -/
inductive Makes (e : Entity) (r : Ref) : Prop where
  | slot {entry : String × List Ref} (declares : entry ∈ e.references.entries) (listed : r ∈ entry.2)
  | task {entry : String × Action} {n : TaskNode} (declares : entry ∈ e.actions.entries)
      (node : n ∈ entry.2.tree.allNodes) (own : n.target = some r)

/-- Why a valid entity cannot be bound, if it is no mixin. -/
inductive Blocked (e : Entity) (g : EntityGraph) (id : EntityId) : CompileError → Prop where
  | unresolved {r : Ref} (makes : e.Makes r) :
      Blocked e g id (.unresolved e.key.text r.kind.name r.key.name)
  | ambiguous {r : Ref} {count depth : Nat} (makes : e.Makes r) :
      Blocked e g id (.ambiguous e.key.text r.kind.name r.key.name count depth)
  | required {s : SlotSpec} (known : s ∈ e.kind.schema.slots) (required : s.required = true)
      (empty : ((e.boundSlots g).get? s.name).getD [] = []) :
      Blocked e g id (.unresolved e.key.text s.target.name ("<" ++ s.name ++ ">"))
  /-- A runbook need not have a default target. -/
  | noDefault {entry : String × Action} {n : TaskNode} (kind : e.kind = .runbook)
      (declares : entry ∈ e.actions.entries) (node : n ∈ entry.2.tree.allNodes)
      (own : n.target = none) (empty : ((e.boundSlots g).get? "default_target").getD [] = []) :
      Blocked e g id
        (.structural (e.actionScope entry.1) (.noDefaultTarget n.name "default_target"))
  /-- A scaling task that leaves its target to its entity. -/
  | wrongTarget {entry : String × Action} {n : TaskNode} {t : EntityId} {e' : Entity}
      (declares : entry ∈ e.actions.entries) (node : n ∈ entry.2.tree.allNodes)
      (own : n.target = none) (runs : e.RunsOn g id n t) (found : g.entity? t = some e')
      (other : e'.kind ≠ .deployment) :
      Blocked e g id (.structural (e.actionScope entry.1) (.wrongTarget n.name .deployment e'.kind))

variable {fault : CompileError}

theorem Makes.blocked {r : Ref} (makes : e.Makes r)
    (fails : r.resolve g e.key.text = .error fault) : e.Blocked g id fault := by
  rcases Ref.resolve_error fails with rfl | ⟨count, depth, rfl⟩
  · exact .unresolved makes
  · exact .ambiguous makes

/-- The default slots of packages are required, those of runbooks are not. -/
theorem default_slot {k : EntityKind} {slot : String}
    (default : k.schema.defaultTarget = .slot slot) :
    (∃ s ∈ k.schema.slots, s.required = true ∧ s.name = slot) ∨
      k = .runbook ∧ slot = "default_target" := by
  cases k <;> simp_all [EntityKind.schema, EntityKind.serviceSchema, EntityKind.packageSchema,
    EntityKind.substrateSchema, EntityKind.deploymentSchema, EntityKind.profileSchema,
    EntityKind.credentialSchema, EntityKind.endpointSchema, EntityKind.blueprintSchema,
    EntityKind.runbookSchema, EntityKind.environmentSchema, EntityKind.projectSchema,
    EntityKind.policySchema]

theorem Refused.blocked (concrete : e.kind ≠ .mixin) (valid : e.validate = .ok ())
    (h : e.Refused g id fault) : e.Blocked g id fault := by
  cases h with
  | slot declares listed fails => exact Makes.blocked (.slot declares listed) fails
  | required known required empty => exact .required known required empty
  | @task entry n _ filled declares node refused =>
    obtain ⟨targeted, kinds⟩ := checkTask_ok (validate_tasks concrete valid entry declares n node)
    cases refused with
    | dangling own fails => exact Makes.blocked (.task declares node own) fails
    | needsTarget own needs default => exact (targeted own needs default).elim
    | noDefault own needs default empty =>
      rcases default_slot default with ⟨s, known, required, rfl⟩ | ⟨kind, rfl⟩
      · exact (filled s known required empty).elim
      · exact .noDefault kind declares node own empty
    | @wrongTarget t e' k runs found wants other =>
      obtain ⟨rfl, -⟩ := TaskNode.targetKind?_eq_some.mp wants
      cases own : n.target with
      | none => exact .wrongTarget declares node own runs found other
      | some r =>
        -- The reference of the task was checked to be of the kind that it is bound to.
        cases runs with
        | own own' means =>
          obtain rfl := Option.some.inj (own.symm.trans own')
          obtain ⟨e'', found', same⟩ := means.entity?
          obtain rfl := Option.some.inj (found.symm.trans found')
          exact (other ((congrArg EntityKey.kind same).trans (kinds r _ own wants))).elim
        | self own' => cases own.symm.trans own'
        | slot own' => cases own.symm.trans own'

theorem Blocked.not_needsTarget (h : e.Blocked g id fault) (scope task : String) :
    fault ≠ .structural scope (.needsTarget task) := by
  rintro rfl
  cases h

theorem Blocked.runbook {scope task slot : String}
    (h : e.Blocked g id (.structural scope (.noDefaultTarget task slot))) : e.kind = .runbook := by
  cases h with
  | noDefault kind => exact kind

end Entity

/-! ### The law -/

/-- In a graph of valid entities everything reachable is bound to what it refers to, and if it is no
mixin then to entities of the kinds that its schema asks for. Where the search fails, no task of such
an entity lacks a target that it could not do without, and none has named one of the wrong kind. -/
theorem resolveGraph_kinds (calls : List EntityGraph.Call)
    (built : ∀ d ∈ (EntityGraph.ofCalls calls).declared, d.entity.BuiltTrees)
    (valid : (EntityGraph.ofCalls calls).validate = .ok ()) :
    let g := EntityGraph.ofCalls calls
    (∀ r, resolveGraph g = .ok r → ∀ id ∈ r.reachable, ∃ e b, g.entity? id = some e ∧
      r.binding? id = some b ∧ e.WellTargeted g id b ∧
      (e.kind ≠ .mixin → e.WellSlotted g b.slots)) ∧
    ∀ fault, resolveGraph g = .error fault →
      (g.root = none ∧ fault = .validation "document" .noRoot) ∨
      ∃ root n r id e, g.root = some root ∧ ResolvedGraph.Visited g root n r ∧
        r.reachable[n]? = some id ∧ g.entity? id = some e ∧ e.Refused g id fault ∧
        (e.kind ≠ .mixin → e.Blocked g id fault ∧
          (∀ scope task, fault ≠ .structural scope (.needsTarget task)) ∧
          ∀ scope task slot, fault = .structural scope (.noDefaultTarget task slot) →
            e.kind = .runbook) := by
  intro g
  have rooted : g.Rooted := (EntityGraph.rootKind_ofCalls calls).rooted
  have checked : ∀ id e, g.entity? id = some e → e.BuiltTrees ∧ e.validate = .ok () := by
    intro id e found
    obtain ⟨depth, declared⟩ := EntityGraph.entity?_eq_some.mp found
    have mem := List.mem_of_getElem? declared
    exact ⟨built _ mem, forM_ok valid _ mem⟩
  refine ⟨fun r resolved id met => ?_, fun fault fails => ?_⟩
  · obtain ⟨_, -, search⟩ := (resolveGraph_breadthFirst rooted).2.2 r resolved
    obtain ⟨e, found, binds, bound⟩ := search.bound id met
    exact ⟨e, _, found, bound, binds.wellTargeted found (checked id e found).1,
      fun concrete => binds.wellSlotted concrete (checked id e found).2⟩
  · refine (resolveGraph_error rooted fails).imp_right ?_
    rintro ⟨root, n, r, id, e, start, visited, here, found, refused⟩
    refine ⟨root, n, r, id, e, start, visited, here, found, refused, fun concrete => ?_⟩
    have blocked := refused.blocked concrete (checked id e found).2
    refine ⟨blocked, blocked.not_needsTarget, ?_⟩
    rintro scope task slot rfl
    exact blocked.runbook

namespace Growing

/-- A task on the default endpoint, one that scales a deployment, and one that runs on nothing. -/
def tree : TaskTree :=
  [.leaf { name := "ls" } (.exec { text := "ls" }),
    .leaf { name := "grow", target := some (.named ⟨.deployment, "prod"⟩), predecessors := ["ls"] }
      (.scaling .out "1"),
    .leaf { name := "wait", predecessors := ["grow"] } (.delay 1)]

theorem tree_built : tree.Built ["ls", "grow", "wait"] :=
  ⟨0, "run", [.step { name := "ls", work := .exec { text := "ls" } },
    .step
      { name := "grow", target := some (.named ⟨.deployment, "prod"⟩), work := .scaling .out "1" },
    .step { name := "wait", work := .delay 1 }], rfl, rfl⟩

def calls : List EntityGraph.Call :=
  let package : Entity :=
    { kind := .package, name := "app"
      references := .ofList [("services", [.named ⟨.service, "web"⟩])] }
  let deployment : Entity :=
    { kind := .deployment, name := "prod"
      references := .ofList
        [("packages", [.named ⟨.package, "app"⟩]), ("substrate", [.named ⟨.substrate, "vm"⟩])] }
  let ops : Entity :=
    { kind := .runbook, name := "Ops"
      references := .ofList [("default_target", [.named ⟨.endpoint, "host"⟩])]
      actions := .ofList [("run", { name := "run", kind := .system, tree })] }
  [.declare { kind := .service, name := "web" }, .declare package,
    .declare { kind := .substrate, name := "vm" }, .declare deployment,
    .declare { kind := .endpoint, name := "host" }, .declareRoot ops]

theorem calls_built : ∀ d ∈ (EntityGraph.ofCalls calls).declared, d.entity.BuiltTrees := by
  have none : ∀ e : Entity, e.actions.entries = [] → e.BuiltTrees := by
    intro e empty entry mem
    rw [empty] at mem
    cases mem
  have run : ∀ entry ∈ [("run", ({ name := "run", kind := .system, tree } : Action))],
      ∃ declared, entry.2.tree.Built declared :=
    List.forall_mem_singleton.mpr ⟨_, tree_built⟩
  intro d mem
  have listed : d ∈ [_, _, _, _, _, _] := mem
  simp only [List.mem_cons, List.not_mem_nil, or_false] at listed
  rcases listed with rfl | rfl | rfl | rfl | rfl | rfl
  · exact none _ rfl
  · exact none _ rfl
  · exact none _ rfl
  · exact none _ rfl
  · exact none _ rfl
  · exact run

end Growing

theorem resolveGraph_kinds_growing :
    let g := EntityGraph.ofCalls Growing.calls
    (∀ d ∈ g.declared, d.entity.BuiltTrees) ∧ g.validate = .ok () ∧
      ∃ r, resolveGraph g = .ok r ∧ r.reachable = [5, 4, 3, 1, 2, 0] ∧
        r.target? 5 "run" "ls" = some 4 ∧ r.target? 5 "run" "grow" = some 3 ∧
        r.target? 5 "run" "wait" = none ∧
        ∀ id ∈ r.reachable, ∃ e b, g.entity? id = some e ∧ r.binding? id = some b ∧
          e.WellTargeted g id b ∧ (e.kind ≠ .mixin → e.WellSlotted g b.slots) := by
  intro g
  obtain ⟨_, valid, -⟩ := ok_of_test (x := g.validate) (P := fun _ => True) (by decide +kernel)
  obtain ⟨r, resolved, shown⟩ := ok_of_test (x := resolveGraph g)
    (P := fun r => r.reachable = [5, 4, 3, 1, 2, 0] ∧ r.target? 5 "run" "ls" = some 4 ∧
      r.target? 5 "run" "grow" = some 3 ∧ r.target? 5 "run" "wait" = none) (by decide +kernel)
  exact ⟨Growing.calls_built, valid, r, resolved, shown.1, shown.2.1, shown.2.2.1, shown.2.2.2,
    (resolveGraph_kinds Growing.calls Growing.calls_built valid).1 r resolved⟩

/-- A runbook with a task on a mixin, which refers to a service. -/
def straying : List EntityGraph.Call :=
  let shared : Entity :=
    { kind := .mixin, name := "Shared"
      references := .ofList [("links", [.named ⟨.service, "web"⟩])] }
  let tree : TaskTree :=
    [.leaf { name := "hello", target := some (.named shared.key) } (.exec { text := "ls" }),
      .leaf { name := "list", target := some (.named ⟨.service, "web"⟩), predecessors := ["hello"] }
        (.exec { text := "ls" })]
  [.declare { kind := .service, name := "web" }, .declare shared,
    .declareRoot { kind := .runbook, name := "Ops",
                   actions := .ofList [("run", { name := "run", kind := .system, tree })] }]

/-- A runbook with a task on a mixin, which has a task that would need a target. -/
def aimless : List EntityGraph.Call :=
  let ls : TaskNode := .leaf { name := "ls" } (.exec { text := "ls" })
  let shared : Entity :=
    { kind := .mixin, name := "Shared"
      actions := .ofList [("greet", { name := "greet", tree := [ls] })] }
  let hello : TaskNode :=
    .leaf { name := "hello", target := some (.named shared.key) } (.exec { text := "ls" })
  [.declare shared,
    .declareRoot { kind := .runbook, name := "Ops",
                   actions := .ofList [("run", { name := "run", kind := .system, tree := [hello] })] }]

/-- Mixins pass validation unchecked, and one that is used as a target is bound as it is: in a slot
that no schema knows, or not at all. -/
theorem mixin_unchecked :
    (∃ r e b, (EntityGraph.ofCalls straying).validate = .ok () ∧
      resolveGraph (.ofCalls straying) = .ok r ∧ 1 ∈ r.reachable ∧
      (EntityGraph.ofCalls straying).entity? 1 = some e ∧ r.binding? 1 = some b ∧
      ("links", [0]) ∈ b.slots.entries ∧ (∀ spec ∈ e.kind.schema.slots, spec.name ≠ "links") ∧
      ¬e.WellSlotted (.ofCalls straying) b.slots) ∧
    (EntityGraph.ofCalls aimless).validate = .ok () ∧
      resolveGraph (.ofCalls aimless) = .error (.structural "Shared.greet" (.needsTarget "ls")) := by
  refine ⟨⟨_, _, _, rfl, rfl, by decide, rfl, rfl, by decide, by decide, fun slotted => ?_⟩, rfl, rfl⟩
  obtain ⟨spec, known, -⟩ := slotted.kinds ("links", [0]) (by decide)
  cases known

end Blueprint
