import Blueprint.CommandLine.Fetch
import Blueprint.Proofs.Module.Fields

/-!
# Texts that a declaration reads

Building a declaration reads the files that it names, and no other: files with the same texts there
build the same entity, or fail in the same way.
-/

namespace Blueprint

/-! ### Scripts and steps -/

variable {s s' : FileScope}

theorem FileScope.script_same {source : ScriptSource} (subject : String)
    (same : ∀ n ∈ source.file, s'.read n = s.read n) :
    s'.script subject source = s.script subject source := by
  unfold FileScope.script
  cases named : source.file with
  | none => cases source.inline <;> rfl
  | some name =>
    cases source.inline with
    | none => exact same name named
    | some _ => rfl

namespace ActionScope

variable {subject : String}

theorem work_same {t : TaskSource} (word : TaskWord)
    (same : ∀ n ∈ t.script.file, s'.read n = s.read n) :
    work ⟨s', subject⟩ t word = work ⟨s, subject⟩ t word := by
  cases word with
  | exec | setVariable =>
    unfold work
    dsimp only
    rw [FileScope.script_same t.name same]
  | http | delay | scaleOut | scaleIn | input => rfl

theorem step_same {t : TaskSource} (word : TaskWord)
    (same : ∀ n ∈ t.script.file, s'.read n = s.read n) :
    step ⟨s', subject⟩ word t = step ⟨s, subject⟩ word t := by
  unfold step
  rw [work_same word same]
  rfl

theorem decision_same {d : DecisionSource} (same : ∀ n ∈ d.script.file, s'.read n = s.read n) :
    decision ⟨s', subject⟩ d = decision ⟨s, subject⟩ d := by
  unfold decision
  dsimp only
  rw [FileScope.script_same d.name same]
  rfl

mutual

theorem place_same : ∀ (b : TaskBuilder) (step : StepSource),
    (∀ n ∈ step.fileNames, s'.read n = s.read n) →
      place ⟨s', subject⟩ b step = place ⟨s, subject⟩ b step
  | b, .task word t, same => by
    rw [place, place, step_same word (by simpa [StepSource.fileNames] using same)]
  | b, .parallel steps, same => by
    have inner := fun b => placeAll_same b steps (by simpa [StepSource.fileNames] using same)
    simp only [place, inner]
  | b, .serial steps, same => by
    have inner := fun b => placeAll_same b steps (by simpa [StepSource.fileNames] using same)
    simp only [place, inner]
  | b, .decision d success failure, same => by
    simp only [StepSource.fileNames, List.append_assoc, List.forall_mem_append] at same
    obtain ⟨own, first, second⟩ := same
    have header : decision ⟨s', subject⟩ d = decision ⟨s, subject⟩ d :=
      decision_same (by simpa using own)
    have success := fun b => placeAll_same b success first
    have failure := fun b => placeAll_same b failure second
    simp only [place, header, success, failure]
  | b, .loop l body, same => by
    have inner := fun b => placeAll_same b body (by simpa [StepSource.fileNames] using same)
    simp only [place, inner]

theorem placeAll_same : ∀ (b : TaskBuilder) (steps : List StepSource),
    (∀ n ∈ stepFileNames steps, s'.read n = s.read n) →
      placeAll ⟨s', subject⟩ b steps = placeAll ⟨s, subject⟩ b steps
  | b, [], _ => by rw [placeAll, placeAll]
  | b, step :: steps, same => by
    obtain ⟨first, rest⟩ := List.forall_mem_append.mp same
    have inner := fun b => placeAll_same b steps rest
    simp only [placeAll, place_same b step first, inner]

end

end ActionScope

/-! ### Declarations -/

namespace FileScope

theorem readVariable_same {name : String} {source : Option VariableSource}
    (same : ∀ n ∈ source.bind (·.script.file), s'.read n = s.read n) :
    s'.readVariable name source = s.readVariable name source := by
  cases source with
  | none => rfl
  | some v =>
    have computed : s'.computed name v = s.computed name v := by
      unfold FileScope.computed
      rw [script_same name same]
    have kind : s'.variableKind name v = s.variableKind name v := by
      unfold FileScope.variableKind
      rw [computed]
    unfold FileScope.readVariable
    dsimp only
    rw [kind]

theorem readVariables_same {vs : OrderedMap (Option VariableSource)}
    (same : ∀ n ∈ variableFileNames vs, s'.read n = s.read n) :
    ∀ e ∈ vs.entries, s'.readVariable e.1 e.2 = s.readVariable e.1 e.2 := by
  intro e mem
  refine readVariable_same fun n named => same n ?_
  exact List.mem_filterMap.mpr ⟨e.2, List.mem_map_of_mem mem, named⟩

theorem action_same {entity name : String} {a : ActionSource}
    (same : ∀ n ∈ variableFileNames a.vars ++ stepFileNames a.steps, s'.read n = s.read n) :
    s'.action entity name a = s.action entity name a := by
  obtain ⟨vars, steps⟩ := List.forall_mem_append.mp same
  have tree : ActionScope.tree ⟨s', entity ++ "." ++ name⟩ name a.steps =
      ActionScope.tree ⟨s, entity ++ "." ++ name⟩ name a.steps := by
    unfold ActionScope.tree
    rw [ActionScope.placeAll_same _ _ steps]
  have vars : (a.vars.entries.mapM fun e => do return (e.1, ← s'.readVariable e.1 e.2)) =
      a.vars.entries.mapM fun e => do return (e.1, ← s.readVariable e.1 e.2) :=
    mapM_congr fun e mem => by rw [readVariables_same vars e mem]
  unfold FileScope.action
  rw [tree]
  exact bind_congr fun _ => congrArg (· >>= _) vars

theorem attributes_same {d : Declaration}
    (createSpec : ∀ n ∈ d.source.createSpecFile, s'.read n = s.read n)
    (secret : ∀ n ∈ d.source.secretFile, s'.read n = s.read n) :
    s'.attributes d = s.attributes d := by
  have text : ∀ owner key file, s'.read file = s.read file →
      s'.attributeText d owner key file = s.attributeText d owner key file := by
    intro owner key file same
    rw [attributeText, same, attributeText]
  have spec : ∀ n ∈ d.source.createSpecFile, s'.createSpec d n = s.createSpec d n := by
    intro n named
    rw [FileScope.createSpec, text _ _ n (createSpec n named), FileScope.createSpec]
  have secrets : ∀ n ∈ d.source.secretFile, s'.secret d n = s.secret d n := by
    intro n named
    rw [FileScope.secret, text _ _ n (secret n named), FileScope.secret]
  have filed_same : ∀ (m : OrderedMap Json) (key : String) (file : Option String)
      (read read' : String → Except CompileError Json), (∀ n ∈ file, read' n = read n) →
        Declaration.filed m key read' file = Declaration.filed m key read file := by
    intro m key file read read' same
    cases file with
    | none => rfl
    | some name => rw [Declaration.filed, Declaration.filed, same name rfl]
  rw [Declaration.attributes_eq, Declaration.attributes_eq, filed_same _ _ _ _ _ spec]
  exact bind_congr fun m => filed_same _ _ _ _ _ secrets

end FileScope

theorem Declaration.build_same {files files' : Files} {d : Declaration}
    (same : ∀ p ∈ d.paths, files'.read p = files.read p) (bases : List Entity) :
    d.build files' bases = d.build files bases := by
  let s : FileScope := ⟨files, d.file⟩
  let s' : FileScope := ⟨files', d.file⟩
  have same : ∀ n ∈ d.source.fileNames, s'.read n = s.read n := by
    intro n named
    unfold FileScope.read Files.readAt
    rw [same _ (List.mem_map_of_mem named)]
  simp only [EntitySource.fileNames, List.forall_mem_append, Option.mem_toList] at same
  obtain ⟨⟨⟨vars, actions⟩, createSpec⟩, secret⟩ := same
  have vars : (d.source.vars.entries.mapM fun e => s'.readVariable e.1 e.2) =
      d.source.vars.entries.mapM fun e => s.readVariable e.1 e.2 :=
    mapM_congr (FileScope.readVariables_same vars)
  have actions : (d.source.actions.entries.mapM fun e => s'.action d.subject e.1 e.2) =
      d.source.actions.entries.mapM fun e => s.action d.subject e.1 e.2 :=
    mapM_congr fun e mem => FileScope.action_same fun n named =>
      actions n (List.mem_flatMap.mpr ⟨e.2, List.mem_map_of_mem mem, named⟩)
  have attributes := FileScope.attributes_same createSpec secret
  have draft : d.draft files' bases = d.draft files bases := by
    unfold Declaration.draft
    dsimp only
    rw [attributes]
    exact (congrArg (· >>= _) vars).trans (bind_congr fun _ => congrArg (· >>= _) actions)
  rw [Declaration.build, draft, Declaration.build]

end Blueprint
