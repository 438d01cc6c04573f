import Blueprint.Proofs.Builder.Invariant
import Blueprint.Proofs.Entity.Made
import Blueprint.Proofs.Graph.Fixed
import Blueprint.Proofs.Module.Places
import Blueprint.Proofs.Outline.Nested

/-!
# References of loaded entities

What a module says refers to entities by their names. No reference of an entity that is built from
declarations is bound to a place in a graph, so that renumbering a graph leaves it as it is.
-/

namespace Blueprint

def Ref.Plain (r : Ref) : Prop := ∃ key, r = .named key

theorem Ref.Plain.rename {r : Ref} (h : r.Plain) (π : EntityId → EntityId) : r.rename π = r := by
  obtain ⟨key, rfl⟩ := h
  rfl

theorem Ref.ofText_plain {text subject : String} {kind : Option EntityKind} {r : Ref}
    (h : Ref.ofText text kind subject = .ok r) : r.Plain := by
  unfold Ref.ofText at h
  split at h
  · split at h
    · exact ⟨_, (Except.ok.inj h).symm⟩
    · cases h
  · exact ⟨_, (Except.ok.inj h).symm⟩
  · cases h

/-! ### Targets of a layout -/

/-- The target that a call gives to its task. -/
def Call.target? {τ : Type} : Call τ → Option Ref
  | step s => s.target
  | openDecision d => d.target
  | _ => none

theorem Call.target?_shape {τ : Type} (c : Call τ) : c.shape.target? = c.target? := by
  cases c <;> rfl

namespace Outline

variable {n : TaskNode} {r : Ref}

theorem decision_script (d : DecisionHeader) (first : Branch) (s f : List Outline) :
    .openDecision d ∈ (decision d first s f).script := by
  cases first <;> exact List.mem_cons_self

mutual

/-- Every target was given to one of the calls that wrote the outline. -/
theorem layout_target : ∀ (o : Outline) (entry : List String),
    n ∈ TaskNode.allOf (o.layout entry) → n.target = some r → ∃ c ∈ o.script, c.target? = some r
  | step s, entry, mem, target => by
    rw [List.mem_singleton.mp mem] at target
    exact ⟨.step s, List.mem_cons_self, target⟩
  | serial ms, entry, mem, target => by
    obtain ⟨c, called, same⟩ := layoutSerial_target ms entry mem target
    exact ⟨c, (body_sublist .openSerial ms).subset called, same⟩
  | parallel ms, entry, mem, target => by
    obtain ⟨c, called, same⟩ := layoutParallel_target ms entry mem target
    exact ⟨c, (body_sublist .openParallel ms).subset called, same⟩
  | decision d first s f, entry, mem, target => by
    simp only [layout, DecisionHeader.node, TaskNode.allOf, TaskNode.all, List.append_nil] at mem
    rcases List.mem_cons.mp mem with rfl | mem
    · exact ⟨.openDecision d, decision_script d first s f, target⟩
    · rcases List.mem_append.mp mem with mem | mem
      · obtain ⟨c, called, same⟩ := layoutSerial_target s [] mem target
        exact ⟨c, (branch_sublist d first s f).1.subset called, same⟩
      · obtain ⟨c, called, same⟩ := layoutSerial_target f [] mem target
        exact ⟨c, (branch_sublist d first s f).2.subset called, same⟩
  | loop l b, entry, mem, target => by
    simp only [layout, LoopHeader.node, TaskNode.allOf, TaskNode.all, List.append_nil] at mem
    rcases List.mem_cons.mp mem with rfl | mem
    · cases target
    · obtain ⟨c, called, same⟩ := layoutSerial_target b [] mem target
      exact ⟨c, (body_sublist (.openLoop l) b).subset called, same⟩

theorem layoutSerial_target : ∀ (ms : List Outline) (entry : List String),
    n ∈ TaskNode.allOf (layoutSerial entry ms) → n.target = some r →
    ∃ c ∈ scriptOf ms, c.target? = some r
  | m :: ms, entry, mem, target => by
    rw [layoutSerial, allOf_append] at mem
    rcases List.mem_append.mp mem with mem | mem
    · obtain ⟨c, called, same⟩ := layout_target m entry mem target
      exact ⟨c, List.mem_append_left _ called, same⟩
    · obtain ⟨c, called, same⟩ := layoutSerial_target ms _ mem target
      exact ⟨c, List.mem_append_right _ called, same⟩

theorem layoutParallel_target : ∀ (ms : List Outline) (entry : List String),
    n ∈ TaskNode.allOf (layoutParallel entry ms) → n.target = some r →
    ∃ c ∈ scriptOf ms, c.target? = some r
  | m :: ms, entry, mem, target => by
    rw [layoutParallel, allOf_append] at mem
    rcases List.mem_append.mp mem with mem | mem
    · obtain ⟨c, called, same⟩ := layout_target m entry mem target
      exact ⟨c, List.mem_append_left _ called, same⟩
    · obtain ⟨c, called, same⟩ := layoutParallel_target ms entry mem target
      exact ⟨c, List.mem_append_right _ called, same⟩

end

end Outline

/-! ### Trees of a module -/

namespace TaskBuilder

variable {b b' b'' : TaskBuilder}

theorem Accepted.append {cs cs' : List (Call ScopeToken)} (h : Accepted b cs b')
    (h' : Accepted b' cs' b'') : Accepted b (cs ++ cs') b'' := by
  induction h with
  | done => exact h'
  | call first _ ih => exact .call first (ih h')

theorem accepted_ok {α : Type} {o : Outcome α} {r : TaskBuilder × α}
    (h : b.accepted o = .ok r) : o = (r.1, .ok r.2) := by
  obtain ⟨b', answer⟩ := o
  cases answer with
  | ok a => rw [← Except.ok.inj h]
  | error fault => cases h

/-- Calls that are accepted and give plain targets to their tasks. -/
def CallsPlainly (b b' : TaskBuilder) : Prop :=
  ∃ calls, Accepted b calls b' ∧ ∀ c ∈ calls, ∀ r, c.target? = some r → r.Plain

theorem CallsPlainly.refl (b : TaskBuilder) : b.CallsPlainly b :=
  ⟨[], .done b, List.forall_mem_nil _⟩

theorem CallsPlainly.trans (h : b.CallsPlainly b') (h' : b'.CallsPlainly b'') :
    b.CallsPlainly b'' := by
  obtain ⟨cs, accepted, plain⟩ := h
  obtain ⟨cs', accepted', plain'⟩ := h'
  exact ⟨cs ++ cs', accepted.append accepted', List.forall_mem_append.mpr ⟨plain, plain'⟩⟩

theorem CallsPlainly.call {α : Type} {c : Call ScopeToken} {token : α → Option ScopeToken}
    {o : Outcome α} {r : TaskBuilder × α} (h : b.accepted o = .ok r)
    (same : b.perform c = perform.opened token o)
    (plain : ∀ r, c.target? = some r → r.Plain) : b.CallsPlainly r.1 := by
  have performed : b.perform c = (r.1, .ok (token r.2)) := by
    rw [same, accepted_ok h]
    rfl
  exact ⟨[c], .call performed (.done _), List.forall_mem_singleton.mpr plain⟩

/-- A scope is opened, filled and closed. -/
theorem CallsPlainly.scope {c : Call ScopeToken} {opens : Outcome ScopeToken} {token : ScopeToken}
    {closes : TaskBuilder × Unit} {b₁ b₂ : TaskBuilder} (opened : b.accepted opens = .ok (b₁, token))
    (same : b.perform c = perform.opened some opens) (plain : ∀ r, c.target? = some r → r.Plain)
    (inner : b₁.CallsPlainly b₂) (closed : b₂.accepted (b₂.close token) = .ok closes) :
    b.CallsPlainly closes.1 :=
  ((CallsPlainly.call opened same plain).trans inner).trans
    (.call (c := .close token) closed rfl nofun)

end TaskBuilder

namespace ActionScope

open TaskBuilder (CallsPlainly)

variable {s : ActionScope} {b b' : TaskBuilder}

theorem target_plain {kind : Option EntityKind} {text : Option String} {t : Option Ref}
    (h : s.target kind text = .ok t) : ∀ r, t = some r → r.Plain := by
  cases text with
  | none =>
    obtain rfl := Except.ok.inj h
    nofun
  | some text =>
    obtain ⟨r, read, rfl⟩ := map_ok h
    rintro _ ⟨⟩
    exact Ref.ofText_plain read

theorem work_plain {word : TaskWord} {t : TaskSource} {w : Work × Option Ref}
    (h : s.work t word = .ok w) : ∀ r, w.2 = some r → r.Plain := by
  have scaling : ∀ direction, s.scaling direction t = .ok w → ∀ r, w.2 = some r → r.Plain := by
    intro direction h
    obtain ⟨text, -, h⟩ := bind_ok h
    obtain ⟨target, read, h⟩ := bind_ok h
    rw [pure_ok h]
    rintro _ ⟨⟩
    exact Ref.ofText_plain read
  cases word with
  | scaleOut => exact scaling .out h
  | scaleIn => exact scaling .into h
  | input =>
    obtain rfl := Except.ok.inj h
    nofun
  | exec | setVariable | http | delay =>
    obtain ⟨_, -, h⟩ := bind_ok h
    rw [pure_ok h]
    nofun

theorem step_plain {word : TaskWord} {t : TaskSource} {st : Step} (h : s.step word t = .ok st) :
    ∀ r, st.target = some r → r.Plain := by
  obtain ⟨⟨work, given⟩, worked, h⟩ := bind_ok h
  dsimp only at h
  split at h <;> obtain ⟨target, chosen, h⟩ := bind_ok h <;> rw [pure_ok h]
  · obtain rfl := pure_ok chosen
    exact work_plain worked
  · exact target_plain chosen

theorem decision_plain {d : DecisionSource} {header : DecisionHeader}
    (h : s.decision d = .ok header) : ∀ r, header.target = some r → r.Plain := by
  obtain ⟨text, -, h⟩ := bind_ok h
  obtain ⟨target, read, h⟩ := bind_ok h
  rw [pure_ok h]
  exact target_plain read

mutual

theorem place_plain : ∀ (step : StepSource) {b b' : TaskBuilder}, s.place b step = .ok b' →
    b.CallsPlainly b'
  | .task word t, b, b', h => by
    rw [place] at h
    obtain ⟨st, read, h⟩ := bind_ok h
    obtain ⟨⟨b₁, _⟩, called, h⟩ := bind_ok h
    rw [pure_ok h]
    exact .call (c := .step st) called rfl (step_plain read)
  | .parallel steps, b, b', h => by
    rw [place] at h
    obtain ⟨⟨b₁, token⟩, opened, h⟩ := bind_ok h
    obtain ⟨b₂, inner, h⟩ := bind_ok h
    obtain ⟨⟨b₃, _⟩, closed, h⟩ := bind_ok h
    rw [pure_ok h]
    exact .scope (c := .openParallel) opened rfl nofun (placeAll_plain steps inner) closed
  | .serial steps, b, b', h => by
    rw [place] at h
    obtain ⟨⟨b₁, token⟩, opened, h⟩ := bind_ok h
    obtain ⟨b₂, inner, h⟩ := bind_ok h
    obtain ⟨⟨b₃, _⟩, closed, h⟩ := bind_ok h
    rw [pure_ok h]
    exact .scope (c := .openSerial) opened rfl nofun (placeAll_plain steps inner) closed
  | .decision d success failure, b, b', h => by
    rw [place] at h
    obtain ⟨header, read, h⟩ := bind_ok h
    obtain ⟨⟨b₁, token⟩, opened, h⟩ := bind_ok h
    obtain ⟨⟨b₂, first⟩, openedFirst, h⟩ := bind_ok h
    obtain ⟨b₃, inner, h⟩ := bind_ok h
    obtain ⟨⟨b₄, _⟩, closedFirst, h⟩ := bind_ok h
    obtain ⟨⟨b₅, second⟩, openedSecond, h⟩ := bind_ok h
    obtain ⟨b₆, inner', h⟩ := bind_ok h
    obtain ⟨⟨b₇, _⟩, closedSecond, h⟩ := bind_ok h
    obtain ⟨⟨b₈, _⟩, closed, h⟩ := bind_ok h
    rw [pure_ok h]
    have succeeded := CallsPlainly.scope (c := .openBranch .success) openedFirst rfl nofun
      (placeAll_plain success inner) closedFirst
    have failed := CallsPlainly.scope (c := .openBranch .failure) openedSecond rfl nofun
      (placeAll_plain failure inner') closedSecond
    exact .scope (c := .openDecision header) opened rfl (decision_plain read)
      (succeeded.trans failed) closed
  | .loop l body, b, b', h => by
    rw [place] at h
    obtain ⟨⟨b₁, token⟩, opened, h⟩ := bind_ok h
    obtain ⟨b₂, inner, h⟩ := bind_ok h
    obtain ⟨⟨b₃, _⟩, closed, h⟩ := bind_ok h
    rw [pure_ok h]
    exact .scope (c := .openLoop (loop l)) opened rfl nofun (placeAll_plain body inner) closed

theorem placeAll_plain : ∀ (steps : List StepSource) {b b' : TaskBuilder},
    s.placeAll b steps = .ok b' → b.CallsPlainly b'
  | [], b, b', h => by
    rw [placeAll] at h
    rw [← Except.ok.inj h]
    exact .refl b
  | step :: steps, b, b', h => by
    rw [placeAll] at h
    obtain ⟨b₁, first, rest⟩ := bind_ok h
    exact (place_plain step first).trans (placeAll_plain steps rest)

end

theorem tree_plain {action : String} {steps : List StepSource} {t : TaskTree}
    (h : s.tree action steps = .ok t) : ∀ n ∈ t.allNodes, ∀ r, n.target = some r → r.Plain := by
  obtain ⟨b, placed, finished⟩ := bind_ok h
  obtain ⟨calls, accepted, plain⟩ := placeAll_plain steps placed
  obtain ⟨os, inv, wrote⟩ := TaskBuilder.accepted_inv accepted (TaskBuilder.new_inv 0 action)
  obtain ⟨body, rfl, rfl, -⟩ := TaskBuilder.finish_layout inv (mapError_ok finished)
  have script : Outline.scriptOf body = calls.map Call.shape := wrote
  intro n mem r target
  obtain ⟨c, called, same⟩ := Outline.layoutSerial_target body [] mem target
  rw [script] at called
  obtain ⟨c, made, rfl⟩ := List.mem_map.mp called
  exact plain c made r (c.target?_shape.symm.trans same)

end ActionScope

/-! ### Entities -/

/-- An entity that refers to others by their names. -/
structure Entity.Plain (e : Entity) : Prop where
  references : e.references.Each fun _ refs => ∀ r ∈ refs, r.Plain
  actions : e.actions.Each fun _ a => ∀ n ∈ a.tree.allNodes, ∀ r, n.target = some r → r.Plain

theorem Entity.Plain.refs {e : Entity} (h : e.Plain) : ∀ r ∈ e.refs, r.Plain := by
  intro r mem
  rcases List.mem_append.mp mem with mem | mem
  · obtain ⟨refs, listed, mem⟩ := List.mem_flatten.mp mem
    obtain ⟨entry, there, rfl⟩ := List.mem_map.mp listed
    exact h.references entry there r mem
  · obtain ⟨a, listed, mem⟩ := List.mem_flatMap.mp mem
    obtain ⟨n, node, target⟩ := List.mem_filterMap.mp mem
    obtain ⟨entry, there, rfl⟩ := List.mem_map.mp listed
    exact h.actions entry there n node r target

theorem Entity.Plain.rename {e : Entity} (h : e.Plain) (π : EntityId → EntityId) :
    e.rename π = e :=
  Entity.rename_eq_self fun r mem => (h.refs r mem).rename π

theorem Composition.add_plain {c c' : Composition} {base : Entity} (plain : c.merged.Plain)
    (other : base.Plain) (h : c.add base = .ok c') : c'.merged.Plain := by
  obtain ⟨-, same⟩ := Composition.add_ok h
  rw [same]
  exact ⟨plain.references.insertAllNew other.references, plain.actions.insertAllNew other.actions⟩

theorem Entity.ofBases_plain {key : EntityKey} {bases : List Entity} {e : Entity}
    (others : ∀ b ∈ bases, b.Plain) (h : Entity.ofBases key bases = .ok e) : e.Plain := by
  obtain ⟨c, merged, rfl⟩ := map_ok h
  have start : Entity.Plain { kind := key.kind, name := key.name } :=
    ⟨OrderedMap.each_empty, OrderedMap.each_empty⟩
  exact foldlM_ok (P := fun c : Composition => c.merged.Plain)
    (fun c b mem c' plain added => Composition.add_plain plain (others b mem) added) start merged

theorem Entity.finalize_plain {e e' : Entity} (plain : e.Plain) (h : e.finalize = .ok e') :
    e'.Plain := by
  unfold Entity.finalize at h
  split at h
  · exact Except.ok.inj h ▸ plain
  · obtain ⟨_, -, rfl⟩ := map_ok h
    exact ⟨plain.references, plain.actions.mapValues fun _ _ nodes => nodes⟩

theorem FileScope.action_plain {s : FileScope} {entity name : String} {source : ActionSource}
    {a : Action} (h : s.action entity name source = .ok a) :
    ∀ n ∈ a.tree.allNodes, ∀ r, n.target = some r → r.Plain := by
  obtain ⟨tree, placed, h⟩ := bind_ok h
  obtain ⟨vars, -, h⟩ := bind_ok h
  rw [pure_ok h]
  exact ActionScope.tree_plain placed

theorem FileScope.references_plain {d : Declaration} {slot : String} {targets : List String}
    {refs : List Ref} (h : FileScope.references d slot targets = .ok refs) :
    ∀ r ∈ refs, r.Plain := by
  intro r mem
  obtain ⟨text, -, read⟩ := mapM_ok_mem h r mem
  exact Ref.ofText_plain read

theorem Declaration.build_plain {d : Declaration} {files : Files} {parents : List Entity}
    {e : Entity} (others : ∀ b ∈ parents, b.Plain) (h : d.build files parents = .ok e) :
    e.Plain := by
  obtain ⟨draft, gives, built⟩ := Declaration.build_ok h
  obtain ⟨merged, checked, built⟩ := bind_ok (EntityDraft.build_eq draft ▸ built)
  have base : merged.Plain :=
    Entity.ofBases_plain (gives.bases ▸ others) (EntityDraft.checked_ok checked).1
  refine Entity.finalize_plain ⟨base.references.insertAll ?_, base.actions.insertAll ?_⟩ built
  · intro entry mem
    obtain ⟨_, -, -, read⟩ := mem_forall₂ gives.references.flip entry mem
    exact FileScope.references_plain read
  · refine OrderedMap.each_ofList (List.forall_mem_map.mpr fun a mem => ?_)
    obtain ⟨_, -, -, read⟩ := mem_forall₂ gives.actions.flip a mem
    exact FileScope.action_plain read

/-! ### Loaded graphs -/

theorem EntityGraph.Made.plain {g : EntityGraph} {files : Files} {ds : List Declaration}
    {bs : List (List Nat)} {order : List Nat} {loaded : Nat → Entity}
    (h : g.Made files ds bs order loaded) : ∀ i ∈ order, (loaded i).Plain := by
  obtain ⟨follows, -⟩ := Inheritance.order_ok h.ordered
  obtain ⟨places, -⟩ := Inheritance.bases_ok h.based
  refine follows.each (List.forall_mem_nil _) fun i inside bases => ?_
  have here : i < ds.length := places ▸ inside
  have built := h.built i ds[i] (List.getElem?_eq_getElem here)
  exact Declaration.build_plain (List.forall_mem_map.mpr bases) built

theorem load_plain {files : Files} {file : Path} {g : EntityGraph} (h : load files file = .ok g) :
    ∀ x ∈ g.declared, x.entity.Plain := by
  obtain ⟨ds, bs, order, loaded, -, -, made⟩ := load_made h
  intro x mem
  rw [made.declared] at mem
  obtain ⟨i, met, shown⟩ := List.mem_filterMap.mp mem
  obtain ⟨d, -, shown⟩ := Option.bind_eq_some_iff.mp shown
  unfold Declaration.shown at shown
  split at shown
  · cases shown
  · obtain rfl := Option.some.inj shown
    exact made.plain i met

end Blueprint
