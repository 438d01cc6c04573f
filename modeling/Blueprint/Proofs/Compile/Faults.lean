import Blueprint.Compile
import Blueprint.Proofs.Graph.Calls
import Blueprint.Proofs.Macro.Check
import Blueprint.Proofs.Payload.Resources

/-!
# Faults of the passes themselves

A compile of a graph whose root is declared and may root a document ends in no fault that only the
passes themselves could cause: none of them leaves the graph, and what the search has reached is
resolved and can be rendered.
-/

namespace Blueprint

/-- Faults that are no matter of what a pass is given: an entity that moves out of turn, an id
outside the graph, and entities that were never resolved or have no place in a document. -/
def CompileError.isInternal : CompileError → Bool
  | .lifecycle .. | .missingEntity _ => true
  | .document (.neverResolved _) | .document (.notInDocument _)
  | .document (.notDocumentRoot _) => true
  | _ => false

/-- A computation that ends in no internal fault. -/
def Guarded {α : Type} (x : Except CompileError α) : Prop :=
  ∀ fault, x = .error fault → fault.isInternal = false

namespace Guarded

variable {α β σ ε : Type} {x : Except CompileError α}

theorem of_ok {a : α} (h : x = .ok a) : Guarded x := fun _ fails => nomatch h.symm.trans fails

theorem pure (a : α) : Guarded (Pure.pure a) := of_ok rfl

theorem error {fault : CompileError} (h : fault.isInternal = false) :
    Guarded (.error fault : Except CompileError α) := by
  intro other same
  exact Except.error.inj same ▸ h

theorem bind {f : α → Except CompileError β} (first : Guarded x)
    (next : ∀ a, x = .ok a → Guarded (f a)) : Guarded (x >>= f) := by
  intro fault fails
  rcases bind_error fails with fails | ⟨a, here, fails⟩
  · exact first fault fails
  · exact next a here fault fails

theorem map {f : α → β} (h : Guarded x) : Guarded (x.map f) := by
  cases x with
  | error fault => exact .error (h fault rfl)
  | ok a => exact .of_ok rfl

theorem mapError {x : Except ε α} {place : ε → CompileError}
    (h : ∀ fault, (place fault).isInternal = false) : Guarded (x.mapError place) := by
  cases x with
  | error fault => exact .error (h fault)
  | ok a => exact .of_ok rfl

theorem foldlM {P : σ → Prop} {f : σ → α → Except CompileError σ} {xs : List α} {s : σ}
    (start : P s) (step : ∀ s, ∀ x ∈ xs, P s → Guarded (f s x) ∧ ∀ s', f s x = .ok s' → P s') :
    Guarded (xs.foldlM f s) := by
  induction xs generalizing s with
  | nil => exact .pure s
  | cons x xs ih =>
    obtain ⟨guarded, keeps⟩ := step s x List.mem_cons_self start
    exact guarded.bind fun s' next =>
      ih (keeps s' next) fun s x mem => step s x (List.mem_cons_of_mem _ mem)

theorem mapM {f : α → Except CompileError β} {xs : List α} (each : ∀ x ∈ xs, Guarded (f x)) :
    Guarded (xs.mapM f) := by
  induction xs with
  | nil => exact .pure []
  | cons x xs ih =>
    obtain ⟨first, rest⟩ := List.forall_mem_cons.mp each
    rw [List.mapM_cons]
    exact first.bind fun _ _ => (ih rest).bind fun _ _ => .pure _

theorem forM {f : α → Except CompileError PUnit} {xs : List α} (each : ∀ x ∈ xs, Guarded (f x)) :
    Guarded (xs.forM f) := by
  induction xs with
  | nil => exact .pure _
  | cons x xs ih =>
    obtain ⟨first, rest⟩ := List.forall_mem_cons.mp each
    exact first.bind fun _ _ => ih rest

end Guarded

/-! ### Validating -/

theorem Entity.guarded_validate (e : Entity) : Guarded e.validate := by
  unfold validate
  split
  · exact .pure ()
  · refine .bind (.mapError fun _ => rfl) fun _ _ => .bind (.forM fun entry _ => ?_) fun _ _ =>
      .mapError fun _ => rfl
    refine .bind (.mapError fun _ => rfl) fun _ _ => .bind (.forM fun v _ => ?_) fun _ _ =>
      .forM fun n _ => .mapError fun _ => rfl
    split
    · exact .pure ()
    · exact .error rfl

theorem EntityGraph.guarded_validate (g : EntityGraph) : Guarded g.validate :=
  .forM fun d _ => d.entity.guarded_validate

/-! ### Resolving -/

section Resolving

variable {g : EntityGraph} {id : EntityId} {e : Entity} {n : TaskNode}

theorem EntityGraph.guarded_entity (h : g.entity? id = some e) : Guarded (g.entity id) :=
  .of_ok (entity_ok.mpr h)

theorem Ref.guarded_resolve (r : Ref) (source : String) : Guarded (r.resolve g source) := by
  unfold resolve
  dsimp only
  split
  · split
    · exact .pure _
    · exact .error rfl
  · split
    · exact .error rfl
    · split
      · exact .pure _
      · exact .error rfl

theorem Entity.guarded_bindSlots (e : Entity) : Guarded (e.bindSlots g) :=
  .foldlM (P := fun _ => True) trivial fun _ _ _ _ =>
    ⟨.bind (.mapM fun r _ => r.guarded_resolve _) fun _ _ => .pure _, fun _ _ => trivial⟩

theorem Entity.guarded_checkRequired (slots : OrderedMap (List EntityId)) :
    Guarded (e.checkRequired slots) := by
  unfold checkRequired
  split
  · exact .error rfl
  · exact .pure _

theorem Entity.guarded_bindTask (slots : OrderedMap (List EntityId)) (scope : String) :
    Guarded (e.bindTask g id slots scope n) := by
  unfold bindTask
  split
  · rename_i r _
    exact (r.guarded_resolve _).map
  · split
    · exact .mapError fun _ => rfl
    · exact .pure _

theorem Entity.guarded_checkTarget (scope : String) (h : g.entity? id = some e) :
    Guarded (checkTarget g scope n id) := by
  refine (EntityGraph.guarded_entity h).bind fun _ _ => ?_
  dsimp only
  split
  · split
    · exact .pure _
    · exact .error rfl
  · exact .pure _

/-- A task runs on what its slots or its own reference have led to, or on its entity: all are
declared. -/
theorem Entity.guarded_bindReferences (declared : g.entity? id = some e) :
    Guarded (e.bindReferences g id) := by
  refine e.guarded_bindSlots.bind fun slots bound => (guarded_checkRequired slots).bind fun _ _ => ?_
  obtain ⟨means, rfl⟩ := bindSlots_ok bound
  refine .bind (.mapM fun entry _ => ?_) fun _ _ => .pure _
  refine .bind (.mapM fun n _ => (guarded_bindTask _ _).bind fun target bound => ?_)
    fun _ _ => .pure _
  obtain ⟨same, -⟩ := bindTask_ok means bound
  cases target with
  | none => exact .pure _
  | some t =>
    obtain ⟨e', found⟩ := (taskTarget?_eq_some.mp same.symm).entity? declared
    exact (guarded_checkTarget _ found).bind fun _ _ => .pure _

/-- A search that has met declared entities only. -/
def ResolvedGraph.Inside (g : EntityGraph) (r : ResolvedGraph) : Prop :=
  r.graph = g ∧ ∀ id ∈ r.reachable, ∃ e, g.entity? id = some e

variable {r : ResolvedGraph}

theorem ResolvedGraph.Inside.visit (h : r.Inside g) (i : Nat) :
    Guarded (r.visit i) ∧ ∀ r', r.visit i = .ok r' → r'.Inside g := by
  cases here : r.reachable[i]? with
  | none =>
    rw [visit_none here]
    exact ⟨.pure r, fun r' same => Except.ok.inj same ▸ h⟩
  | some id =>
    obtain ⟨rfl, declared⟩ := h
    refine ⟨?_, fun r' visited => ?_⟩
    · obtain ⟨e, found⟩ := declared id (List.mem_of_getElem? here)
      unfold visit
      rw [here]
      refine (EntityGraph.guarded_entity found).bind fun e' same => ?_
      have found := EntityGraph.entity_ok.mp same
      exact (Entity.guarded_bindReferences found).bind fun _ _ => .pure _
    · obtain ⟨e, -, -, rfl⟩ := (visit_ok_iff rfl here).mp visited
      obtain ⟨fresh, same, -, sub, -⟩ := foldl_meet (r.graph.neighbours id) r.reachable
      refine ⟨rfl, fun other met => ?_⟩
      simp only [meet, same] at met
      rcases List.mem_append.mp met with old | new
      · exact declared other old
      · exact (EntityGraph.mem_neighbours.mp (sub other new)).declared

theorem guarded_resolveGraph (rooted : g.Rooted) : Guarded (resolveGraph g) := by
  unfold resolveGraph
  split
  · exact .error rfl
  · rename_i root start
    refine .foldlM (P := fun r : ResolvedGraph => r.Inside g) ⟨rfl, ?_⟩ fun r i _ h => h.visit i
    intro id met
    obtain rfl := List.mem_singleton.mp met
    exact EntityGraph.entity?_of_lt (rooted _ start)

end Resolving

/-! ### Checking and extracting -/

section Passes

variable {r : ResolvedGraph} (closed : r.Closed)

include closed

theorem ResolvedGraph.Closed.guarded_entity {id : EntityId} (met : id ∈ r.reachable) :
    Guarded (r.entity id) := by
  obtain ⟨e, -, found⟩ := closed.entity met
  exact .of_ok found

theorem Macro.guarded_check (strict : Bool) : Guarded (check r strict) := by
  have shared : Guarded (sharedNames r) :=
    .bind (.mapM fun id met => (closed.guarded_entity met).bind fun _ _ => .pure _) fun _ _ => .pure _
  refine shared.bind fun shared _ => .foldlM (P := fun _ => True) trivial fun found id met _ =>
    ⟨.bind ?_ fun sites _ => ?_, fun _ _ => trivial⟩
  · refine (closed.guarded_entity met).bind fun e _ => .bind ?_ fun _ _ => .pure _
    refine (closed.guarded_entity met).bind fun e _ => .bind (.mapM fun s listed => ?_) fun _ _ =>
      .pure _
    have reached : s ∈ r.reachable := by
      split at listed
      · exact closed.slots id "services" s listed
      · cases listed
    exact (closed.guarded_entity reached).bind fun _ _ => .pure _
  · refine .foldlM (P := fun _ => True) trivial fun found w _ _ => ⟨?_, fun _ _ => trivial⟩
    unfold report
    split
    · exact .error rfl
    · exact .pure _

theorem EditableTree.guarded_extract : Guarded (extract r) :=
  .foldlM (P := fun _ => True) trivial fun _ _ met _ =>
    ⟨(closed.guarded_entity met).bind fun _ _ => .pure _, fun _ _ => trivial⟩

end Passes

/-! ### Rendering -/

namespace Payload

/-- Everything that a document is rendered from is declared and has been resolved. -/
structure Grounded (p : Payload) : Prop where
  closed : p.resolved.Closed
  rootKind : ∃ e, p.resolved.graph.entity? p.resolved.root = some e ∧ e.kind.isRoot = true
  resolved : ∀ id ∈ p.resolved.reachable, p.resolved.isResolved id = true
  targets : ∀ id action task t, p.resolved.target? id action task = some t →
    t ∈ p.resolved.reachable

theorem grounded_of_resolveGraph {g : EntityGraph} {r : ResolvedGraph} (root : g.RootKind)
    (resolved : resolveGraph g = .ok r) (context : CompileContext) : Grounded ⟨r, context⟩ := by
  obtain ⟨start, first, search⟩ := (resolveGraph_breadthFirst root.rooted).2.2 r resolved
  obtain ⟨_, -, walk⟩ := resolve_walk resolved
  refine ⟨ResolvedGraph.closed_of_resolveGraph root.rooted resolved, ?_,
    fun id met => (search.resolved id).mpr met, fun id action task t on =>
      walk.closed id t (ResolvedGraph.refers_of_target? on)⟩
  dsimp only
  rw [search.graph, search.start]
  exact root start first

variable {p : Payload} (h : p.Grounded) {id : EntityId} (met : id ∈ p.resolved.reachable)
  (e : Entity)

include h

theorem Grounded.root_mem : p.resolved.root ∈ p.resolved.reachable := h.closed.first

theorem guarded_identifier (path : String) : Guarded (p.identifier path) :=
  (h.closed.guarded_entity h.root_mem).bind fun _ _ => .pure _

theorem guarded_localRef (met : id ∈ p.resolved.reachable) : Guarded (p.localRef id) :=
  (h.closed.guarded_entity met).bind fun _ _ => (guarded_identifier h _).bind fun _ _ => .pure _

theorem guarded_slotRefs (slot : String) : Guarded (p.slotRefs id slot) :=
  .bind (.mapM fun t listed => guarded_localRef h (h.closed.slots id slot t listed))
    fun _ _ => .pure _

theorem guarded_slotRef (slot : String) : Guarded (p.slotRef id slot) := by
  unfold slotRef
  split
  · rename_i t first
    exact guarded_localRef h (h.closed.slots id slot t (List.mem_of_head? first))
  · exact .pure _

theorem guarded_baseFields : Guarded (p.baseFields e) :=
  (guarded_identifier h _).bind fun _ _ => .pure _

omit h in
theorem guarded_lookup (t : LookupTable) (name source : String) :
    Guarded (p.lookup t name source) := by
  unfold lookup
  split
  · exact .pure _
  · exact .error rfl

omit h in
theorem guarded_lookupList (key : String) (t : LookupTable) : Guarded (p.lookupList e key t) := by
  refine .bind (.mapM fun name _ => ?_) fun _ _ => .pure _
  split
  · exact guarded_lookup _ _ _
  · exact .error rfl

theorem guarded_variableList (scope : String) (vs : List Variable) :
    Guarded (p.variableList e scope vs) :=
  .bind (.mapM fun _ _ => (guarded_identifier h _).bind fun _ _ => .pure _) fun _ _ => .pure _

/-! #### Runbooks -/

section Runbooks

variable {s : RunbookScope} (scope : s.payload = p)

include scope

theorem RunbookScope.guarded_ownedId (path : String) : Guarded (s.ownedId path) := by
  subst scope
  exact guarded_identifier h _

theorem RunbookScope.guarded_taskRef (name : String) : Guarded (s.taskRef name) :=
  (guarded_ownedId h scope _).bind fun _ _ => .pure _

theorem RunbookScope.guarded_targetFields {target : Option EntityId}
    (reached : ∀ t, target = some t → t ∈ p.resolved.reachable) :
    Guarded (s.targetFields target) := by
  subst scope
  cases target with
  | none => exact .pure _
  | some t => exact (guarded_localRef h (reached t rfl)).bind fun _ _ => .pure _

theorem RunbookScope.guarded_fill (n : TaskNode) (place : Nat) (attrs : Json)
    (children out : List Json) : Guarded (s.fill n place attrs children out) := by
  refine (guarded_ownedId h scope _).bind fun _ _ =>
    (guarded_targetFields h scope fun t on => ?_).bind fun _ _ => .pure _
  subst scope
  exact h.targets _ _ _ t on

mutual

theorem RunbookScope.guarded_level : ∀ (ns : List TaskNode) (out : List Json),
    Guarded (s.level ns out)
  | [], _ => by
    rw [level]
    exact .pure _
  | n :: ns, out => by
    rw [level]
    refine (guarded_task n out).bind fun out _ => (guarded_taskRef h scope _).bind fun _ _ =>
      .bind (.mapM fun x _ => ?_) fun _ _ => (guarded_level ns out).bind fun _ _ => .pure _
    exact (guarded_taskRef h scope _).bind fun _ _ =>
      (guarded_taskRef h scope _).bind fun _ _ => .pure _

theorem RunbookScope.guarded_task : ∀ (n : TaskNode) (out : List Json), Guarded (s.task n out)
  | .leaf _ _, _ => by
    rw [task]
    exact guarded_fill h scope _ _ _ _ _
  | .decision _ _ success failure, out => by
    rw [task]
    exact (guarded_level success _).bind fun _ _ => (guarded_level failure _).bind fun _ _ =>
      guarded_fill h scope _ _ _ _ _
  | .loop _ _ _ body, out => by
    rw [task]
    exact (guarded_level body _).bind fun _ _ => guarded_fill h scope _ _ _ _ _

end

theorem RunbookScope.guarded_mainTask (met : s.id ∈ p.resolved.reachable) (id : Uuid)
    (top : LevelRefs) : Guarded (s.mainTask id top) := by
  refine (guarded_targetFields h scope fun t on => ?_).bind fun _ _ => .pure _
  subst scope
  unfold defaultTarget? at on
  split at on
  · exact Option.some.inj on ▸ met
  · exact h.closed.slots _ _ t (List.mem_of_head? on)
  · cases on

end Runbooks

include met

theorem guarded_runbook (a : Action) : Guarded (p.runbook id a) := by
  refine (h.closed.guarded_entity met).bind fun e _ => ?_
  dsimp only
  split
  · exact .bind (.error rfl) fun _ none => nomatch none
  · refine (RunbookScope.guarded_ownedId h rfl _).bind fun _ _ =>
      (RunbookScope.guarded_level h rfl _ _).bind fun _ _ =>
        (RunbookScope.guarded_mainTask h rfl met _ _).bind fun _ _ => ?_
    exact (RunbookScope.guarded_ownedId h rfl _).bind fun _ _ =>
      (guarded_variableList h e _ _).bind fun _ _ => .pure _

theorem guarded_runbookFor (name : String) : Guarded (p.runbookFor id name) :=
  (h.closed.guarded_entity met).bind fun _ _ => guarded_runbook h met _

theorem guarded_actionList : Guarded (p.actionList id) := by
  refine (h.closed.guarded_entity met).bind fun e _ => .bind (.mapM fun listed _ => ?_) fun _ _ =>
    .pure _
  exact (h.closed.guarded_entity met).bind fun _ _ => (guarded_identifier h _).bind fun _ _ =>
    (guarded_runbook h met _).bind fun _ _ => .pure _

/-! #### Definitions -/

theorem guarded_ending : Guarded (p.ending id e) :=
  (guarded_variableList h e _ _).bind fun _ _ => (guarded_actionList h met).bind fun _ _ => .pure _

theorem guarded_service : Guarded (p.service id e) :=
  (guarded_baseFields h e).bind fun _ _ => (guarded_slotRefs h _).bind fun _ _ =>
    (guarded_ending h met e).bind fun _ _ => .pure _

theorem guarded_package : Guarded (p.package id e) :=
  (guarded_baseFields h e).bind fun _ _ => (guarded_slotRefs h _).bind fun _ _ =>
    (guarded_variableList h e _ _).bind fun _ _ => (guarded_runbookFor h met _).bind fun _ _ =>
      (guarded_runbookFor h met _).bind fun _ _ => (guarded_actionList h met).bind fun _ _ => .pure _

theorem guarded_substrate : Guarded (p.substrate id e) := by
  have account : Guarded (p.accountFields e) := by
    unfold accountFields
    split
    · exact (guarded_lookup _ _ _).bind fun _ _ => .pure _
    · exact .pure _
  exact (guarded_baseFields h e).bind fun _ _ => account.bind fun _ _ =>
    (guarded_slotRef h _).bind fun _ _ => (guarded_ending h met e).bind fun _ _ => .pure _

theorem guarded_deployment : Guarded (p.deployment id e) :=
  (guarded_baseFields h e).bind fun _ _ => (guarded_slotRefs h _).bind fun _ _ =>
    (guarded_slotRef h _).bind fun _ _ => (guarded_slotRefs h _).bind fun _ _ =>
      (guarded_ending h met e).bind fun _ _ => .pure _

theorem guarded_profile : Guarded (p.profile id e) := by
  have environments : Guarded (p.environmentRefs e) := by
    unfold environmentRefs
    split
    · exact (guarded_lookup _ _ _).bind fun _ _ => .pure _
    · exact .pure _
  exact (guarded_baseFields h e).bind fun _ _ => environments.bind fun _ _ =>
    (guarded_slotRefs h _).bind fun _ _ => (guarded_ending h met e).bind fun _ _ => .pure _

/-- An entity whose kind has a collection has a definition. -/
theorem guarded_definition (found : p.resolved.graph.entity? id = some e)
    (listed : e.kind.collection?.isSome = true) : Guarded (p.definition id) := by
  refine Guarded.bind (.of_ok (EntityGraph.entity_ok.mpr found)) fun e' same => ?_
  obtain rfl := Except.ok.inj ((EntityGraph.entity_ok.mpr found).symm.trans same)
  split
  · exact guarded_service h met e
  · exact guarded_package h met e
  · exact guarded_substrate h met e
  · exact guarded_deployment h met e
  · exact guarded_profile h met e
  · exact (guarded_baseFields h e).bind fun _ _ => .pure _
  · exact (guarded_baseFields h e).bind fun _ _ => (guarded_slotRef h _).bind fun _ _ => .pure _
  · rename_i kind
    cases given : e.kind <;> simp_all [EntityKind.collection?]

omit met

/-! #### Documents -/

theorem guarded_collectionField {k : EntityKind} (listed : k.collection?.isSome = true) :
    Guarded (p.collectionField k) := by
  refine .bind ?_ fun _ _ => .pure _
  have known : ∀ id ∈ p.resolved.reachableOfKind k, id ∈ p.resolved.reachable ∧
      ∃ e, p.resolved.graph.entity? id = some e ∧ e.kind = k := fun id mem =>
    mem_reachableOfKind.mp mem
  refine .bind (.mapM fun id mem => ?_) fun names _ => ?_
  · exact (h.closed.guarded_entity (known id mem).1).bind fun _ _ => .pure _
  · split
    · exact .error rfl
    · refine .bind (.mapM fun id mem => ?_) fun _ _ => .pure _
      obtain ⟨met, e, found, rfl⟩ := known id mem
      exact guarded_definition h met e found listed

theorem guarded_rootFields {root : Entity} (kind : root.kind.isRoot = true)
    (met : id ∈ p.resolved.reachable) : Guarded (p.rootFields id root) := by
  unfold rootFields
  split
  · refine .bind (.mapM fun k mem => guarded_collectionField h ?_) fun _ _ =>
      (guarded_slotRef h _).bind fun _ _ => .pure _
    revert k
    decide
  · exact (guarded_runbookFor h met _).bind fun _ _ => (guarded_collectionField h rfl).bind fun _ _ =>
      (guarded_collectionField h rfl).bind fun _ _ => (guarded_slotRef h _).bind fun _ _ => .pure _
  · exact (guarded_collectionField h rfl).bind fun _ _ =>
      (guarded_collectionField h rfl).bind fun _ _ =>
        (guarded_lookupList _ _ _).bind fun _ _ => .pure _
  · refine (guarded_lookupList _ _ _).bind fun _ _ => (guarded_lookupList _ _ _).bind fun _ _ =>
      (guarded_lookupList _ _ _).bind fun _ _ => ?_
    dsimp only
    split
    · exact (guarded_lookup _ _ _).bind fun _ _ => .pure _
    · exact .pure _
  · exact .pure _
  · cases given : root.kind <;> simp_all [EntityKind.isRoot]

theorem guarded_document (editables : EditableTree) : Guarded (p.document editables) := by
  obtain ⟨root, found, kind⟩ := h.rootKind
  have rooted : p.entity p.resolved.root = .ok root := EntityGraph.entity_ok.mpr found
  have checked : Guarded (p.resolved.reachable.forM p.checkResolved) := .forM fun id met => by
    rw [checkResolved, h.resolved id met]
    exact .pure _
  have resources : Guarded p.resources := by
    refine .bind (.of_ok rooted) fun e same => ?_
    obtain rfl := Except.ok.inj (rooted.symm.trans same)
    exact (guarded_rootFields h kind h.root_mem).bind fun _ _ =>
      (guarded_variableList h root _ _).bind fun _ _ => .pure _
  have metadata : Guarded (p.metadata root) := by
    unfold Payload.metadata
    split
    · exact (guarded_lookup _ _ _).bind fun _ _ => .pure _
    · exact .pure _
  have body : Guarded p.body := by
    refine checked.bind fun _ _ => .bind (.of_ok rooted) fun e same => ?_
    obtain rfl := Except.ok.inj (rooted.symm.trans same)
    exact resources.bind fun _ _ => metadata.bind fun _ _ => .pure _
  refine body.bind fun fields _ => ?_
  split
  · exact .error rfl
  · exact .pure _

end Payload

end Blueprint
