import Blueprint.Macro.Check
import Blueprint.Proofs.Data.Partners
import Blueprint.Proofs.Graph.Search

/-!
# What the macro check reports

The texts of a resolved graph stand in an order, and from each of them some names are visible.
`check_exact` says that a lenient check returns one warning for every macro that names none of them
and for every text with a macro that is never closed, in that order. `check_strict_ok_iff` and
`check_strict_error` relate the two ways of checking.
-/

namespace Blueprint

/-! ### Closed graphs -/

namespace ResolvedGraph

/-- What can be reached is declared, and slots hold nothing else. -/
structure Closed (r : ResolvedGraph) : Prop where
  first : r.root ∈ r.reachable
  declared : ∀ id ∈ r.reachable, ∃ e, r.graph.entity? id = some e
  slots : ∀ id name, ∀ t ∈ r.slot id name, t ∈ r.reachable

theorem closed_of_resolveGraph {g : EntityGraph} {r : ResolvedGraph} (rooted : g.Rooted)
    (resolved : resolveGraph g = .ok r) : r.Closed := by
  obtain ⟨root, -, visited⟩ := (resolveGraph_ok_iff rooted).mp resolved
  obtain ⟨_, -, walk⟩ := resolve_walk resolved
  have search := visited.breadthFirst
  refine ⟨?_, fun id met => ?_, fun id name t listed => ?_⟩
  · exact search.start ▸ List.mem_of_mem_head? search.first
  · obtain ⟨e, found, -⟩ := search.bound id met
    exact ⟨e, search.graph ▸ found⟩
  · exact walk.closed id t (refers_of_slot listed)

theorem Closed.entity {r : ResolvedGraph} (h : r.Closed) {id : EntityId} (met : id ∈ r.reachable) :
    ∃ e, r.graph.entity? id = some e ∧ r.entity id = .ok e := by
  obtain ⟨e, found⟩ := h.declared id met
  exact ⟨e, found, EntityGraph.entity_ok.mpr found⟩

end ResolvedGraph

/-- A task gives a name to the tasks of its action. -/
inductive TaskNode.Gives : TaskNode → String → Prop where
  | assigned {head : TaskHead} {s : Script} {vars : List String} {x : String} (mem : x ∈ vars) :
      Gives (.leaf head (.setVariable s vars)) x
  | response {head : TaskHead} {r : HttpRequest} {x : String} (mem : x ∈ r.responsePaths.keys) :
      Gives (.leaf head (.http r)) x
  | input {head : TaskHead} {inputs : List String} {x : String} (mem : x ∈ inputs) :
      Gives (.leaf head (.input inputs)) x
  | loop {head : TaskHead} {iterations loopVariable : String} {body : List TaskNode} :
      Gives (.loop head iterations loopVariable body) loopVariable

theorem TaskNode.mem_outputs {n : TaskNode} {x : String} : x ∈ n.outputs ↔ n.Gives x := by
  constructor
  · intro mem
    cases n with
    | leaf head w =>
      cases w with
      | setVariable s vars => exact .assigned mem
      | http r => exact .response mem
      | input inputs => exact .input mem
      | exec | scaling | delay => cases mem
    | decision => cases mem
    | loop => exact List.mem_singleton.mp mem ▸ .loop
  · intro gives
    cases gives with
    | assigned mem | response mem | input mem => exact mem
    | loop => exact List.mem_singleton_self _

namespace Macro

/-! ### Texts and what is visible from them -/

/-- A text, with the entity that it belongs to and perhaps an action of it. -/
structure Passage where
  owner : EntityId
  inside : Option Action
  /-- The name under which the text is reported. -/
  site : String
  text : String

/-- The texts of an entity: those of its variables, then for each action those of its variables and
of its tasks, nested ones included. -/
def passagesOf (id : EntityId) (e : Entity) : List Passage :=
  (e.vars.values.flatMap fun v => v.texts.map fun t => ⟨id, none, e.name ++ "." ++ v.name, t⟩) ++
    e.actions.values.flatMap fun a =>
      let path := e.name ++ "." ++ a.name ++ "."
      (a.vars.values.flatMap fun v => v.texts.map fun t => ⟨id, some a, path ++ v.name, t⟩) ++
        a.tree.allNodes.flatMap fun n => n.texts.map fun t => ⟨id, some a, path ++ n.name, t⟩

/-- The texts of all reachable entities, in their order. -/
def passages (r : ResolvedGraph) : List Passage :=
  r.reachable.flatMap fun id => (r.graph.entity? id).elim [] (passagesOf id)

/-- The names that are visible from every text: the entities, and what the root and the profiles
declare. -/
inductive Shared (r : ResolvedGraph) : String → Prop where
  | entity {id : EntityId} {e : Entity} (met : id ∈ r.reachable)
      (found : r.graph.entity? id = some e) : Shared r e.name
  | root {e : Entity} {x : String} (found : r.graph.entity? r.root = some e)
      (mem : x ∈ e.vars.keys) : Shared r x
  | profile {id : EntityId} {e : Entity} {x : String} (met : id ∈ r.reachable)
      (found : r.graph.entity? id = some e) (kind : e.kind = .profile) (mem : x ∈ e.vars.keys) :
      Shared r x

/-- The names that are visible from every text of an entity: its own variables too, and from a
package those of its services. -/
inductive Outer (r : ResolvedGraph) (owner : EntityId) : String → Prop where
  | shared {x : String} (everywhere : Shared r x) : Outer r owner x
  | own {e : Entity} {x : String} (found : r.graph.entity? owner = some e)
      (mem : x ∈ e.vars.keys) : Outer r owner x
  | service {e s : Entity} {id : EntityId} {x : String} (found : r.graph.entity? owner = some e)
      (kind : e.kind = .package) (bound : id ∈ r.slot owner "services")
      (service : r.graph.entity? id = some s) (mem : x ∈ s.vars.keys) : Outer r owner x

/-- A name is visible from a text: inside an action its variables are, and what its tasks give. -/
inductive Visible (r : ResolvedGraph) (p : Passage) : String → Prop where
  | outer {x : String} (outside : Outer r p.owner x) : Visible r p x
  | actionVariable {a : Action} {x : String} (inside : p.inside = some a) (mem : x ∈ a.vars.keys) :
      Visible r p x
  | output {a : Action} {n : TaskNode} {x : String} (inside : p.inside = some a)
      (node : n ∈ a.tree.allNodes) (gives : n.Gives x) : Visible r p x

/-- The server provides a name itself. -/
def Provided (name : String) : Prop := "calm_".toList <+: name.toList ∨ name ∈ builtins

/-- A macro names something: by its head, or as a whole. -/
def InScope (r : ResolvedGraph) (p : Passage) (body : String) : Prop :=
  Provided (head body) ∨ Visible r p (head body) ∨ Visible r p body

open Classical in
/-- What has to be reported of a text: that it cannot be scanned, or every macro out of scope. -/
noncomputable def Passage.faults (r : ResolvedGraph) (p : Passage) : List Fault :=
  match scan p.text with
  | .error position => [.unclosed position]
  | .ok bodies => (bodies.filter fun body => ¬InScope r p body).map .unknown

/-- The warnings of a text. -/
noncomputable def Passage.warnings (r : ResolvedGraph) (p : Passage) : List Warning :=
  (p.faults r).map fun f => ⟨p.site, f⟩

/-- Every macro of a text is closed and in scope. -/
def Passage.Clean (r : ResolvedGraph) (p : Passage) : Prop :=
  ∃ bodies, scan p.text = .ok bodies ∧ ∀ body ∈ bodies, InScope r p body

theorem Passage.faults_eq_nil {r : ResolvedGraph} {p : Passage} : p.faults r = [] ↔ p.Clean r := by
  unfold faults Clean
  cases scanned : scan p.text with
  | error position => simp
  | ok bodies => simp [List.filter_eq_nil_iff]

theorem isBuiltin_iff {name : String} : isBuiltin name = true ↔ Provided name := by
  simp [isBuiltin, Provided]

/-! ### The scopes of the check -/

variable {r : ResolvedGraph} {shared outer : Scope} {id : EntityId} {e : Entity} {x : String}

theorem sharedNames_ok (h : r.Closed) :
    ∃ shared, sharedNames r = .ok shared ∧ ∀ x, x ∈ shared ↔ Shared r x := by
  let names (id : EntityId) : List String := (r.graph.entity? id).elim [] fun e =>
    e.name :: if e.kind = .profile || id = r.root then e.vars.keys else []
  have each : ∀ id ∈ r.reachable, (do
      let e ← r.entity id
      return e.name :: if e.kind = .profile || id = r.root then e.vars.keys else [] :
        Except CompileError (List String)) = .ok (names id) := by
    intro id met
    obtain ⟨e, found, read⟩ := h.entity met
    simp only [read, names, found, Option.elim_some]
    rfl
  refine ⟨(r.reachable.map names).flatten, ?_, fun x => ⟨fun mem => ?_, fun visible => ?_⟩⟩
  · unfold sharedNames
    rw [mapM_eq_ok each, ok_bind]
    rfl
  · obtain ⟨_, listed, mem⟩ := List.mem_flatten.mp mem
    obtain ⟨id, met, rfl⟩ := List.mem_map.mp listed
    obtain ⟨e, found⟩ := h.declared id met
    simp only [names, found, Option.elim_some, List.mem_cons] at mem
    rcases mem with rfl | mem
    · exact .entity met found
    · split at mem
      · rename_i wide
        rcases (by simpa using wide : e.kind = .profile ∨ id = r.root) with profile | rfl
        · exact .profile met found profile mem
        · exact .root found mem
      · cases mem
  · have listed : ∀ id ∈ r.reachable, x ∈ names id → x ∈ (r.reachable.map names).flatten :=
      fun id met mem => List.mem_flatten.mpr ⟨_, List.mem_map_of_mem met, mem⟩
    cases visible with
    | entity met found => exact listed _ met (by simp [names, found])
    | root found mem => exact listed r.root h.first (by simp [names, found, mem])
    | profile met found kind mem => exact listed _ met (by simp [names, found, kind, mem])

theorem entityScope_ok (h : r.Closed) (everywhere : ∀ x, x ∈ shared ↔ Shared r x)
    (found : r.graph.entity? id = some e) :
    ∃ outer, entityScope r shared id = .ok outer ∧ ∀ x, x ∈ outer ↔ Outer r id x := by
  let names (s : EntityId) : List String := (r.graph.entity? s).elim [] (·.vars.keys)
  let services := if e.kind = .package then r.slot id "services" else []
  have bound : ∀ s, s ∈ services ↔ e.kind = .package ∧ s ∈ r.slot id "services" := by
    intro s
    by_cases kind : e.kind = .package <;> simp [services, kind]
  have each : ∀ s ∈ services, (do return (← r.entity s).vars.keys :
      Except CompileError (List String)) = .ok (names s) := by
    intro s mem
    obtain ⟨e', found', read⟩ := h.entity (h.slots id _ s ((bound s).mp mem).2)
    simp only [read, names, found', Option.elim_some]
    rfl
  refine ⟨shared ++ e.vars.keys ++ (services.map names).flatten, ?_, fun x => ?_⟩
  · have read : r.entity id = .ok e := EntityGraph.entity_ok.mpr found
    unfold entityScope
    rw [read, ok_bind]
    change (services.mapM _ >>= _) = _
    rw [mapM_eq_ok each, ok_bind]
    rfl
  · rw [List.append_assoc, List.mem_append, List.mem_append, everywhere]
    constructor
    · rintro (visible | mem | mem)
      · exact .shared visible
      · exact .own found mem
      · obtain ⟨_, listed, mem⟩ := List.mem_flatten.mp mem
        obtain ⟨s, service, rfl⟩ := List.mem_map.mp listed
        obtain ⟨kind, slot⟩ := (bound s).mp service
        obtain ⟨e', found', -⟩ := h.entity (h.slots id _ s slot)
        exact .service found kind slot found' (by simpa [names, found'] using mem)
    · intro visible
      cases visible with
      | shared visible => exact .inl visible
      | own found' mem =>
        obtain rfl := Option.some.inj (found.symm.trans found')
        exact .inr (.inl mem)
      | @service _ _ s _ found' kind slot found'' mem =>
        obtain rfl := Option.some.inj (found.symm.trans found')
        refine .inr (.inr (List.mem_flatten.mpr ⟨names s, ?_, ?_⟩))
        · exact List.mem_map_of_mem ((bound s).mpr ⟨kind, slot⟩)
        · simpa [names, found''] using mem

theorem mem_actionNames {a : Action} :
    x ∈ actionNames a ↔ x ∈ a.vars.keys ∨ ∃ n ∈ a.tree.allNodes, n.Gives x := by
  simp [actionNames, TaskNode.mem_outputs]

theorem visible_outside {site text : String} :
    Visible r ⟨id, none, site, text⟩ x ↔ Outer r id x := by
  constructor
  · intro visible
    cases visible with
    | outer outside => exact outside
    | actionVariable inside | output inside => cases inside
  · exact fun outside => .outer outside

theorem visible_inside {a : Action} {site text : String} :
    Visible r ⟨id, some a, site, text⟩ x ↔ Outer r id x ∨ x ∈ actionNames a := by
  rw [mem_actionNames]
  constructor
  · intro visible
    cases visible with
    | outer outside => exact .inl outside
    | actionVariable inside mem => exact .inr (.inl (Option.some.inj inside ▸ mem))
    | @output _ n _ inside node gives =>
      exact .inr (.inr ⟨n, Option.some.inj inside ▸ node, gives⟩)
  · rintro (outside | mem | ⟨n, node, gives⟩)
    · exact .outer outside
    · exact .actionVariable rfl mem
    · exact .output rfl node gives

/-- A site of the check stands for a text, in a scope that holds what is visible from there. -/
structure Site.Of (r : ResolvedGraph) (s : Site) (p : Passage) : Prop where
  name : s.name = p.site
  text : s.text = p.text
  scope : ∀ x, x ∈ s.scope ↔ Visible r p x

theorem Site.Of.knows {s : Site} {p : Passage} (h : s.Of r p) (body : String) :
    s.scope.knows body = true ↔ InScope r p body := by
  simp [Scope.knows, InScope, isBuiltin_iff, h.scope, or_assoc]

open Classical in
theorem Site.Of.faults {s : Site} {p : Passage} (h : s.Of r p) : s.faults = p.faults r := by
  unfold Site.faults Passage.faults
  rw [h.text]
  cases scan p.text with
  | error position => rfl
  | ok bodies =>
    refine congrArg (List.map _) (List.filter_congr fun body _ => ?_)
    rw [Bool.eq_iff_iff, Bool.not_eq_true', ← Bool.not_eq_true, h.knows, decide_eq_true_iff]

theorem entitySites_ok (h : r.Closed) (everywhere : ∀ x, x ∈ shared ↔ Shared r x)
    (found : r.graph.entity? id = some e) :
    ∃ sites, entitySites r shared id = .ok sites ∧
      List.Forall₂ (Site.Of r) sites (passagesOf id e) := by
  obtain ⟨outer, seen, visible⟩ := entityScope_ok h everywhere found
  have read : r.entity id = .ok e := EntityGraph.entity_ok.mpr found
  refine ⟨?sites, ?made, ?agree⟩
  case made =>
    rw [entitySites, read, ok_bind, seen, ok_bind]
    rfl
  case agree =>
    -- Both lists are made of the same texts in the same way, so that they agree text by text.
    have inside : ∀ a site text x, x ∈ outer ++ actionNames a ↔
        Visible r ⟨id, some a, site, text⟩ x := by
      intro a site text x
      rw [List.mem_append, visible, visible_inside]
    refine List.rel_append (forall₂_flatMap fun v _ => ?_) (forall₂_flatMap fun a _ =>
      List.rel_append (forall₂_flatMap fun v _ => ?_) (forall₂_flatMap fun n _ => ?_)) <;>
      rw [List.forall₂_map_left_iff, List.forall₂_map_right_iff]
    · exact List.forall₂_same.mpr fun t _ =>
        ⟨rfl, rfl, fun x => (visible x).trans visible_outside.symm⟩
    all_goals exact List.forall₂_same.mpr fun t _ => ⟨rfl, rfl, inside a _ t⟩

/-! ### Reporting -/

def Site.warnings (s : Site) : List Warning := s.faults.map fun f => ⟨s.name, f⟩

theorem Site.Of.warnings {s : Site} {p : Passage} (h : s.Of r p) : s.warnings = p.warnings r := by
  rw [Site.warnings, Passage.warnings, h.faults, h.name]

theorem warnings_of_sites {sites : List Site} {ps : List Passage}
    (h : List.Forall₂ (Site.Of r) sites ps) :
    sites.flatMap Site.warnings = ps.flatMap (Passage.warnings r) := by
  induction h with
  | nil => rfl
  | cons first _ ih => rw [List.flatMap_cons, List.flatMap_cons, ih, first.warnings]

theorem foldlM_report_lenient {ws found : List Warning} :
    ws.foldlM (report false) found = .ok (found ++ ws) := by
  induction ws generalizing found with
  | nil => exact congrArg Except.ok (List.append_nil found).symm
  | cons w ws ih =>
    change ws.foldlM (report false) (found ++ [w]) = _
    rw [ih, List.append_assoc]
    rfl

/-- What a check of entities reports is settled by their texts, whether or not it is strict. -/
theorem foldlM_checkEntity {ids : List EntityId} {wss : List (List Warning)}
    (each : List.Forall₂ (fun id ws => ∃ sites, entitySites r shared id = .ok sites ∧
      ws = sites.flatMap Site.warnings) ids wss) (strict : Bool) (found : List Warning) :
    ids.foldlM (checkEntity r strict shared) found = wss.flatten.foldlM (report strict) found := by
  induction each generalizing found with
  | nil => rfl
  | cons first _ ih =>
    obtain ⟨sites, made, rfl⟩ := first
    rw [List.foldlM_cons, List.flatten_cons, List.foldlM_append, checkEntity, made, ok_bind]
    exact congrArg _ (funext ih)

theorem sites_of_foldlM {strict : Bool} {ids : List EntityId} {found ws : List Warning}
    (passed : ids.foldlM (checkEntity r strict shared) found = .ok ws) :
    ∃ wss, List.Forall₂ (fun id ws => ∃ sites, entitySites r shared id = .ok sites ∧
      ws = sites.flatMap Site.warnings) ids wss := by
  induction ids generalizing found with
  | nil => exact ⟨[], .nil⟩
  | cons id ids ih =>
    obtain ⟨next, first, passed⟩ := bind_ok passed
    obtain ⟨sites, made, -⟩ := bind_ok first
    obtain ⟨wss, rest⟩ := ih passed
    exact ⟨_ :: wss, .cons ⟨sites, made, rfl⟩ rest⟩

/-- A check that passes has met warnings that every check of that graph reports in turn. -/
theorem reports_of_check {strict : Bool} {ws : List Warning} (passed : check r strict = .ok ws) :
    ∃ all : List Warning, ∀ strict', check r strict' = all.foldlM (report strict') [] := by
  obtain ⟨shared, names, passed⟩ := bind_ok passed
  obtain ⟨wss, each⟩ := sites_of_foldlM passed
  refine ⟨wss.flatten, fun strict' => ?_⟩
  rw [check, names, ok_bind, foldlM_checkEntity each]

/-- A strict check passes exactly when a lenient one finds nothing. -/
theorem check_strict_ok_iff {ws : List Warning} :
    check r true = .ok ws ↔ check r false = .ok ws ∧ ws = [] := by
  constructor
  · intro passed
    obtain ⟨all, reports⟩ := reports_of_check passed
    rw [reports] at passed ⊢
    cases all with
    | nil => exact ⟨passed, pure_ok passed⟩
    | cons w all => cases passed
  · rintro ⟨passed, rfl⟩
    obtain ⟨all, reports⟩ := reports_of_check passed
    rw [reports, foldlM_report_lenient] at passed
    obtain rfl : all = [] := Except.ok.inj passed
    exact reports true

/-- A strict check ends at the first warning of a lenient one. -/
theorem check_strict_error {w : Warning} {ws : List Warning} (passed : check r false = .ok (w :: ws)) :
    check r true = .error (.validation w.site (.badMacro w.fault)) := by
  obtain ⟨all, reports⟩ := reports_of_check passed
  rw [reports, foldlM_report_lenient] at passed
  obtain rfl : all = w :: ws := Except.ok.inj passed
  exact reports true

/-! ### The check -/

theorem check_lenient_ok (h : r.Closed) :
    check r false = .ok ((passages r).flatMap (Passage.warnings r)) := by
  obtain ⟨shared, names, everywhere⟩ := sharedNames_ok h
  let met (id : EntityId) : List Passage := (r.graph.entity? id).elim [] (passagesOf id)
  have each : List.Forall₂ (fun id ws => ∃ sites, entitySites r shared id = .ok sites ∧
      ws = sites.flatMap Site.warnings) r.reachable
      (r.reachable.map fun id => (met id).flatMap (Passage.warnings r)) := by
    refine List.forall₂_map_right_iff.mpr (List.forall₂_same.mpr fun id reached => ?_)
    obtain ⟨e, found⟩ := h.declared id reached
    obtain ⟨sites, made, agree⟩ := entitySites_ok h everywhere found
    refine ⟨sites, made, ?_⟩
    simp only [met, found, Option.elim_some]
    exact (warnings_of_sites agree).symm
  rw [check, names, ok_bind, foldlM_checkEntity each, foldlM_report_lenient, List.nil_append,
    passages, List.flatMap_assoc, List.flatMap]

/-- **The macro check is exact.** Of a resolved graph it reports, text by text in their order, the
texts that cannot be scanned and the macros that name nothing visible, and nothing else; it reports
nothing exactly when every macro is closed and in scope. -/
theorem check_exact {g : EntityGraph} (rooted : g.Rooted) (resolved : resolveGraph g = .ok r) :
    check r false = .ok ((passages r).flatMap (Passage.warnings r)) ∧
      (check r false = .ok [] ↔ ∀ p ∈ passages r, p.Clean r) := by
  have lenient := check_lenient_ok (ResolvedGraph.closed_of_resolveGraph rooted resolved)
  refine ⟨lenient, ?_⟩
  rw [lenient, Except.ok.injEq, List.flatMap_eq_nil_iff]
  refine forall₂_congr fun p _ => ?_
  rw [Passage.warnings, List.map_eq_nil_iff, Passage.faults_eq_nil]

/-- A runbook that sees its own variable, what a task in a loop gives and the loop's variable, but
not the variable of its endpoint, which has one that is not closed besides. -/
def probing : EntityGraph :=
  let simple (name value : String) : Variable :=
    { name, value, kind := .simple, type := .string, isRuntime := false, isMandatory := false
      isHidden := false, regex := none, default := none, description := "", label := "" }
  let read : TaskNode := .leaf { name := "read" } (.setVariable { text := "@@\x7bi\x7d@@" } ["OUT"])
  let use : TaskNode := .leaf { name := "use" } (.exec
    { text := "@@\x7bOUT\x7d@@ @@\x7bENV\x7d@@ @@\x7bweb.address\x7d@@ @@\x7bPORT.x\x7d@@" })
  let run : Action :=
    { name := "run", kind := .system, tree := [.loop { name := "again" } "3" "i" [read], use] }
  let runbook : Entity :=
    { kind := .runbook, name := "Ops", vars := (∅ : OrderedMap Variable).insert "ENV" (simple "ENV" "x")
      references := (∅ : OrderedMap (List Ref)).insert "default_target" [.named ⟨.endpoint, "web"⟩]
      actions := (∅ : OrderedMap Action).insert "run" run }
  let web : Entity :=
    { kind := .endpoint, name := "web"
      vars := (∅ : OrderedMap Variable).insert "PORT" (simple "PORT" "8 @@\x7bENV") }
  { declared := [⟨web, 1⟩, ⟨runbook, 0⟩], root := some 1 }

theorem check_exact_probing : probing.Rooted ∧ ∃ r, resolveGraph probing = .ok r ∧
    check r false = .ok ((passages r).flatMap (Passage.warnings r)) ∧
    (check r false = .ok [] ↔ ∀ p ∈ passages r, p.Clean r) ∧
    check r false =
      .ok [⟨"Ops.run.use", .unknown "PORT.x"⟩, ⟨"web.PORT", .unclosed 2⟩] := by
  have rooted : probing.Rooted := by
    intro root start
    obtain rfl : 1 = root := Option.some.inj start
    decide
  obtain ⟨r, resolved, checked⟩ := ok_of_test (x := resolveGraph probing)
    (P := fun r => (check r false).toOption =
      some [⟨"Ops.run.use", .unknown "PORT.x"⟩, ⟨"web.PORT", .unclosed 2⟩]) (by decide +kernel)
  obtain ⟨lenient, empty⟩ := check_exact rooted resolved
  rw [lenient] at checked
  exact ⟨rooted, r, resolved, lenient, empty, lenient.trans (congrArg Except.ok (Option.some.inj checked))⟩

end Macro

end Blueprint
