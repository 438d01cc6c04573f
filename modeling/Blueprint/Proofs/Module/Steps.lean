import Blueprint.Proofs.Module.Outlined
import Blueprint.Proofs.Module.Tasks

/-!
# Trees of steps

When steps become a tree, and what stands in it: every task that they declare, in the order in which
they declare it and on the level on which they declare it, with the fields that they give.
-/

namespace Blueprint

open StepSource (level levelOf tasks tasksOf)

/-- Steps that can become a tree. -/
structure Accepts (s : FileScope) (steps : List StepSource) : Prop where
  named : ∀ task ∈ tasksOf steps, Text.blankText task.name = false
  distinct : ((tasksOf steps).map TaskStep.name).Nodup
  given : ∀ task ∈ tasksOf steps, task.Given s

/-- A node shows what a task gives. The branches of a decision and the body of a loop show the tasks
of theirs. -/
inductive Shows (s : FileScope) : TaskStep → TaskNode → Prop where
  | leaf {word : TaskWord} {t : TaskSource} {work : Work} {target : Option Ref}
    (predecessors : List String) (does : t.Does s word work)
    (spells : Option.Rel (Ref.Spells word.targetKind?) t.target target) :
    Shows s (.leaf word t) (.leaf {
      name := t.name, description := t.description, target, predecessors, retries := t.retries
      timeoutSecs := t.timeoutSecs } work)
  | decision {d : DecisionSource} {success failure : List StepSource} {success' failure' : TaskTree}
    {text : String} {target : Option Ref} (predecessors : List String)
    (script : s.HasScript d.script text) (spells : Option.Rel (Ref.Spells none) d.target target)
    (first : List.Forall₂ (Shows s) (levelOf success) success')
    (second : List.Forall₂ (Shows s) (levelOf failure) failure') :
    Shows s (.decision d success failure) (.decision {
      name := d.name, description := d.description, target, predecessors }
      ⟨d.scriptType, text⟩ success' failure')
  | loop {l : LoopSource} {body : List StepSource} {body' : TaskTree} (predecessors : List String)
    (inner : List.Forall₂ (Shows s) (levelOf body) body') :
    Shows s (.loop l body) (.loop {
      name := l.name, description := l.description, predecessors }
      l.iterations (l.loopVariable.getD "iteration") body')

variable {s : FileScope}

theorem Shows.name {task : TaskStep} {n : TaskNode} (h : Shows s task n) : n.name = task.name := by
  cases h <;> rfl

theorem Shows.names {ts : List TaskStep} {ns : List TaskNode} (h : List.Forall₂ (Shows s) ts ns) :
    ns.map TaskNode.name = ts.map TaskStep.name := by
  induction h with
  | nil => rfl
  | cons first _ ih => rw [List.map_cons, List.map_cons, first.name, ih]

/-- A level of nodes shows the tasks of that level, and with the levels nested in it all tasks. -/
structure TreeShows (s : FileScope) (level tasks : List TaskStep) (ns : List TaskNode) : Prop where
  level : List.Forall₂ (Shows s) level ns
  tasks : List.Forall₂ (Shows s) tasks (TaskNode.allOf ns)

theorem TreeShows.append {level level' tasks tasks' : List TaskStep} {ns ns' : List TaskNode}
    (h : TreeShows s level tasks ns) (h' : TreeShows s level' tasks' ns') :
    TreeShows s (level ++ level') (tasks ++ tasks') (ns ++ ns') := by
  refine ⟨List.rel_append h.level h'.level, ?_⟩
  rw [Outline.allOf_append]
  exact List.rel_append h.tasks h'.tasks

namespace ActionScope

variable {s : ActionScope}

theorem loop_eq (l : LoopSource) :
    loop l = ⟨l.name, l.iterations, l.loopVariable.getD "iteration", l.description⟩ := by
  unfold loop
  cases l.loopVariable <;> rfl

/-! ### What an outline shows -/

mutual

theorem outline_shows : ∀ (step : StepSource) {o : Outline} (entry : List String),
    s.outline step = .ok o → TreeShows s.toFileScope step.level step.tasks (o.layout entry)
  | .task word t, o, entry, made => by
    obtain ⟨st, built, rfl⟩ := map_ok_iff.mp made
    obtain ⟨work, target, does, spells, rfl⟩ := step_iff.mp built
    have shown := Shows.leaf entry does spells
    exact ⟨.cons shown .nil, .cons shown .nil⟩
  | .parallel steps, o, entry, made => by
    obtain ⟨os, inner, rfl⟩ := map_ok_iff.mp made
    exact (outlineAll_shows steps entry inner).2
  | .serial steps, o, entry, made => by
    obtain ⟨os, inner, rfl⟩ := map_ok_iff.mp made
    exact (outlineAll_shows steps entry inner).1
  | .decision d success failure, o, entry, made => by
    obtain ⟨header, decided, made⟩ := bind_ok made
    obtain ⟨ms, first, made⟩ := bind_ok made
    obtain ⟨ns, second, made⟩ := bind_ok made
    cases pure_ok made
    obtain ⟨text, target, script, spells, rfl⟩ := decision_iff.mp decided
    obtain ⟨levelFirst, allFirst⟩ := (outlineAll_shows success [] first).1
    obtain ⟨levelSecond, allSecond⟩ := (outlineAll_shows failure [] second).1
    have shown := Shows.decision entry script spells levelFirst levelSecond
    refine ⟨.cons shown .nil, ?_⟩
    rw [Outline.layout, DecisionHeader.node, TaskNode.allOf, TaskNode.allOf, TaskNode.all,
      List.append_nil]
    exact .cons shown (List.rel_append allFirst allSecond)
  | .loop l body, o, entry, made => by
    obtain ⟨os, inner, rfl⟩ := map_ok_iff.mp made
    obtain ⟨level, all⟩ := (outlineAll_shows body [] inner).1
    have shown := Shows.loop (l := l) entry level
    rw [loop_eq]
    refine ⟨.cons shown .nil, ?_⟩
    rw [Outline.layout, LoopHeader.node, TaskNode.allOf, TaskNode.allOf, TaskNode.all,
      List.append_nil]
    exact .cons shown all

theorem outlineAll_shows : ∀ (steps : List StepSource) {os : List Outline} (entry : List String),
    s.outlineAll steps = .ok os →
      TreeShows s.toFileScope (levelOf steps) (tasksOf steps) (Outline.layoutSerial entry os) ∧
      TreeShows s.toFileScope (levelOf steps) (tasksOf steps) (Outline.layoutParallel entry os)
  | [], os, entry, made => by
    cases made
    exact ⟨⟨.nil, .nil⟩, ⟨.nil, .nil⟩⟩
  | step :: steps, os, entry, made => by
    obtain ⟨o, first, made⟩ := bind_ok made
    obtain ⟨os, rest, made⟩ := bind_ok made
    cases pure_ok made
    have here := outline_shows step entry first
    exact ⟨here.append (outlineAll_shows steps _ rest).1, here.append (outlineAll_shows steps _ rest).2⟩

end

/-! ### When there is an outline -/

theorem target_given {kind : Option EntityKind} {text : Option String} :
    (∃ target, Option.Rel (Ref.Spells kind) text target) ↔ ∀ t ∈ text, ∃ r, Ref.Spells kind t r := by
  cases text with
  | none => exact ⟨fun _ => nofun, fun _ => ⟨none, .none⟩⟩
  | some text =>
    constructor
    · rintro ⟨_, spells | _⟩ t mem
      obtain rfl := Option.mem_some_iff.mp mem
      exact ⟨_, spells⟩
    · intro known
      obtain ⟨r, spells⟩ := known text rfl
      exact ⟨some r, .some spells⟩

theorem leaf_given {word : TaskWord} {t : TaskSource} :
    (∃ st, s.step word t = .ok st) ↔ (TaskStep.leaf word t).Given s.toFileScope := by
  rw [TaskStep.Given, ← target_given, ← TaskSource.does_iff]
  constructor
  · rintro ⟨st, made⟩
    obtain ⟨work, target, does, spells, -⟩ := step_iff.mp made
    exact ⟨⟨work, does⟩, target, spells⟩
  · rintro ⟨⟨work, does⟩, target, spells⟩
    exact ⟨_, step_iff.mpr ⟨work, target, does, spells, rfl⟩⟩

theorem decision_given {d : DecisionSource} {success failure : List StepSource} :
    (∃ header, s.decision d = .ok header) ↔
      (TaskStep.decision d success failure).Given s.toFileScope := by
  rw [TaskStep.Given, ← target_given]
  constructor
  · rintro ⟨header, made⟩
    obtain ⟨text, target, script, spells, -⟩ := decision_iff.mp made
    exact ⟨⟨text, script⟩, target, spells⟩
  · rintro ⟨⟨text, script⟩, target, spells⟩
    exact ⟨_, decision_iff.mpr ⟨text, target, script, spells, rfl⟩⟩

/-- The tasks of a level are the nodes of its outlines. -/
theorem outlineAll_names {steps : List StepSource} {os : List Outline}
    (made : s.outlineAll steps = .ok os) :
    Outline.namesOf os = (levelOf steps).map TaskStep.name ∧
      Outline.allNamesOf os = (tasksOf steps).map TaskStep.name := by
  have shown := (outlineAll_shows steps [] made).1
  rw [← Outline.layoutSerial_names os [], ← Outline.layoutSerial_allNames os []]
  exact ⟨Shows.names shown.level, Shows.names shown.tasks⟩

mutual

theorem outline_given : ∀ step : StepSource,
    (∃ o, s.outline step = .ok o ∧ o.Solid) ↔ ∀ task ∈ step.tasks, task.Given s.toFileScope
  | .task word t => by
    simp only [outline, map_ok_iff, exists_exists_and_eq_and, StepSource.tasks,
      List.forall_mem_singleton, ← leaf_given, Outline.Solid, and_true]
  | .parallel steps => by
    simp only [outline, map_ok_iff, exists_exists_and_eq_and]
    exact outlineAll_given steps
  | .serial steps => by
    simp only [outline, map_ok_iff, exists_exists_and_eq_and]
    exact outlineAll_given steps
  | .decision d success failure => by
    rw [StepSource.tasks, List.forall_mem_cons, List.forall_mem_append, ← decision_given,
      ← outlineAll_given success, ← outlineAll_given failure]
    constructor
    · rintro ⟨o, made, solid⟩
      obtain ⟨header, decided, made⟩ := bind_ok made
      obtain ⟨ms, first, made⟩ := bind_ok made
      obtain ⟨ns, second, made⟩ := bind_ok made
      cases pure_ok made
      exact ⟨⟨header, decided⟩, ⟨ms, first, solid.1⟩, ns, second, solid.2⟩
    · rintro ⟨⟨header, decided⟩, ⟨ms, first, solidFirst⟩, ns, second, solidSecond⟩
      refine ⟨.decision header .success ms ns, ?_, solidFirst, solidSecond⟩
      rw [outline, decided, ok_bind, first, ok_bind, second]
      rfl
  | .loop l body => by
    rw [StepSource.tasks, List.forall_mem_cons, ← outlineAll_given body, TaskStep.Given]
    simp only [outline, map_ok_iff, exists_exists_and_eq_and, Outline.Solid, loop_eq]
    constructor
    · rintro ⟨os, made, counted, filled, solid⟩
      rw [(outlineAll_names made).1] at filled
      exact ⟨⟨counted, fun none => filled (by rw [none]; rfl)⟩, os, made, solid⟩
    · rintro ⟨⟨counted, filled⟩, os, made, solid⟩
      refine ⟨os, made, counted, ?_, solid⟩
      rw [(outlineAll_names made).1]
      exact fun none => filled (List.map_eq_nil_iff.mp none)

theorem outlineAll_given : ∀ steps : List StepSource,
    (∃ os, s.outlineAll steps = .ok os ∧ Outline.SolidOf os) ↔
      ∀ task ∈ tasksOf steps, task.Given s.toFileScope
  | [] => ⟨fun _ => List.forall_mem_nil _, fun _ => ⟨[], rfl, trivial⟩⟩
  | step :: steps => by
    rw [tasksOf, List.forall_mem_append, ← outline_given step, ← outlineAll_given steps]
    constructor
    · rintro ⟨os, made, solid⟩
      obtain ⟨o, first, made⟩ := bind_ok made
      obtain ⟨os, rest, made⟩ := bind_ok made
      cases pure_ok made
      exact ⟨⟨o, first, solid.1⟩, os, rest, solid.2⟩
    · rintro ⟨⟨o, first, solid⟩, os, rest, solidRest⟩
      refine ⟨o :: os, ?_, solid, solidRest⟩
      rw [outlineAll, first, ok_bind, rest]
      rfl

end

theorem tree_exact (s : ActionScope) (action : String) (steps : List StepSource) :
    ((∃ t, s.tree action steps = .ok t) ↔ Accepts s.toFileScope steps) ∧
      ∀ t, s.tree action steps = .ok t →
        List.Forall₂ (Shows s.toFileScope) (levelOf steps) t ∧
          List.Forall₂ (Shows s.toFileScope) (tasksOf steps) t.allNodes := by
  refine ⟨⟨?_, ?_⟩, ?_⟩
  · rintro ⟨t, built⟩
    obtain ⟨os, made, solid, fresh, rfl⟩ := tree_iff.mp built
    rw [(outlineAll_names made).2] at fresh
    exact ⟨List.forall_mem_map.mp fresh.named, fresh.distinct,
      (outlineAll_given steps).mp ⟨os, made, solid⟩⟩
  · intro accepts
    obtain ⟨os, made, solid⟩ := (outlineAll_given steps).mpr accepts.given
    have fresh : Fresh [] (Outline.allNamesOf os) := by
      rw [(outlineAll_names made).2]
      exact ⟨List.forall_mem_map.mpr accepts.named, accepts.distinct, fun _ _ => List.not_mem_nil⟩
    exact ⟨_, tree_iff.mpr ⟨os, made, solid, fresh, rfl⟩⟩
  · intro t built
    obtain ⟨os, made, -, -, rfl⟩ := tree_iff.mp built
    have shown := (outlineAll_shows steps [] made).1
    exact ⟨shown.level, shown.tasks⟩

/-- A probe whose branches repair and report, and a loop around two steps side by side. -/
def rollout : List StepSource :=
  [.decision { name := "probe", script := { inline := some "curl -sf localhost" } }
      [.serial [.task .http { name := "report", url := some "localhost/ok" }]]
      [.task .exec { name := "repair", script := { file := some "fix.sh" } }],
    .parallel [],
    .loop { name := "grow", iterations := "3" }
      [.parallel [.task .scaleOut { name := "out", target := some "Web" },
        .task .delay { name := "wait", target := some "service/App", seconds := some 5 }]]]

def rolloutScope : ActionScope where
  files := .ofList [(⟨"fix.sh"⟩, "systemctl restart")]
  file := ⟨"app.yaml"⟩
  subject := "profile 'P'"

theorem tree_exact_rollout :
    ∃ t, rolloutScope.tree "scale" rollout = .ok t ∧
      t.allNodes.map TaskNode.name = ["probe", "report", "repair", "grow", "out", "wait"] ∧
      Accepts rolloutScope.toFileScope rollout ∧
      List.Forall₂ (Shows rolloutScope.toFileScope) (levelOf rollout) t ∧
      List.Forall₂ (Shows rolloutScope.toFileScope) (tasksOf rollout) t.allNodes := by
  have run := ok_of_test (x := rolloutScope.tree "scale" rollout) (P := fun t =>
    t.allNodes.map TaskNode.name = ["probe", "report", "repair", "grow", "out", "wait"])
    (by decide +kernel)
  obtain ⟨t, built, names⟩ := run
  obtain ⟨accepts, shown⟩ := tree_exact rolloutScope "scale" rollout
  exact ⟨t, built, names, accepts.mp ⟨t, built⟩, shown t built⟩

end ActionScope

end Blueprint
