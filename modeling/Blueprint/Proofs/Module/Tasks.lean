import Blueprint.Module.Steps
import Blueprint.Proofs.Except
import Blueprint.Proofs.Text.Slash

/-!
# Tasks of a module

The tasks that the steps of an action declare, what each of them has to give, and what becomes of
it. `step_iff` and `decision_iff` say that this is how they are built.
-/

namespace Blueprint

/-- A step that becomes a node of the tree. -/
inductive TaskStep where
  | leaf (word : TaskWord) (t : TaskSource)
  | decision (d : DecisionSource) (success failure : List StepSource)
  | loop (l : LoopSource) (body : List StepSource)

def TaskStep.name : TaskStep → String
  | leaf _ t => t.name
  | decision d _ _ => d.name
  | loop l _ => l.name

namespace StepSource

mutual

/-- The tasks of a level. What stands in a scope is on the level of the scope; a branch and the body
of a loop are levels of their own. -/
def level : StepSource → List TaskStep
  | task word t => [.leaf word t]
  | parallel steps => levelOf steps
  | serial steps => levelOf steps
  | decision d success failure => [.decision d success failure]
  | loop l body => [.loop l body]

def levelOf : List StepSource → List TaskStep
  | [] => []
  | step :: steps => level step ++ levelOf steps

end

mutual

/-- All tasks in the order in which they are declared, those of nested levels included. -/
def tasks : StepSource → List TaskStep
  | task word t => [.leaf word t]
  | parallel steps => tasksOf steps
  | serial steps => tasksOf steps
  | decision d success failure =>
    .decision d success failure :: (tasksOf success ++ tasksOf failure)
  | loop l body => .loop l body :: tasksOf body

def tasksOf : List StepSource → List TaskStep
  | [] => []
  | step :: steps => tasks step ++ tasksOf steps

end

end StepSource

/-! ### What a task gives -/

/-- A script has one text, which stands in place or in a file that can be read. -/
inductive FileScope.HasScript (s : FileScope) : ScriptSource → String → Prop where
  | inline (text : String) : s.HasScript ⟨some text, none⟩ text
  | file {file text : String} (readable : s.files.read (s.file.beside ⟨file⟩) = .ok text) :
    s.HasScript ⟨none, some file⟩ text

/-- A text refers to an entity by its kind and its name. Where a kind is expected, the name is
enough. -/
inductive Ref.Spells (expected : Option EntityKind) : String → Ref → Prop where
  | keyed (kind : EntityKind) (name : String) :
    Spells expected (kind.name ++ "/" ++ name) (.named ⟨kind, name⟩)
  | bare {kind : EntityKind} {name : String} (plain : Text.Plain name) (known : expected = some kind) :
    Spells expected name (.named ⟨kind, name⟩)

/-- The kind that is expected of a target. -/
def TaskWord.targetKind? : TaskWord → Option EntityKind
  | scaleOut | scaleIn => some .deployment
  | _ => none

namespace TaskSource

/-- What a leaf step does, by the fields that it gives. -/
inductive Does (s : FileScope) (t : TaskSource) : TaskWord → Work → Prop where
  | exec {text : String} (script : s.HasScript t.script text) :
    Does s t .exec (.exec ⟨t.scriptType.getD .sh, text⟩)
  | setVariable {text : String} (script : s.HasScript t.script text) :
    Does s t .setVariable (.setVariable ⟨t.scriptType.getD .sh, text⟩ t.vars)
  | http {url : String} (given : t.url = some url) :
    Does s t .http (.http {
      method := t.method.getD "GET", url, body := t.body.getD "", headers := t.headers
      statusCodes := if t.statusCodes = [] then [200] else t.statusCodes
      responsePaths := t.responsePaths })
  | delay {seconds : Nat} (given : t.seconds = some seconds) : Does s t .delay (.delay seconds)
  | scaleOut {text : String} (given : t.target = some text) :
    Does s t .scaleOut (.scaling .out (t.count.getD "1"))
  | scaleIn {text : String} (given : t.target = some text) :
    Does s t .scaleIn (.scaling .into (t.count.getD "1"))
  | input : Does s t .input (.input t.inputs)

/-- What a leaf step cannot do without. -/
def Needs (s : FileScope) (t : TaskSource) : TaskWord → Prop
  | .exec | .setVariable => ∃ text, s.HasScript t.script text
  | .http => t.url.isSome
  | .delay => t.seconds.isSome
  | .scaleOut | .scaleIn => t.target.isSome
  | .input => True

theorem does_iff {s : FileScope} {t : TaskSource} {word : TaskWord} :
    (∃ work, t.Does s word work) ↔ t.Needs s word := by
  constructor
  · rintro ⟨work, does⟩
    cases does with
    | exec script | setVariable script => exact ⟨_, script⟩
    | http given | delay given | scaleOut given | scaleIn given =>
      exact Option.isSome_iff_exists.mpr ⟨_, given⟩
    | input => trivial
  · intro needs
    cases word with
    | exec =>
      obtain ⟨text, script⟩ := needs
      exact ⟨_, .exec script⟩
    | setVariable =>
      obtain ⟨text, script⟩ := needs
      exact ⟨_, .setVariable script⟩
    | http =>
      obtain ⟨url, given⟩ := Option.isSome_iff_exists.mp needs
      exact ⟨_, .http given⟩
    | delay =>
      obtain ⟨seconds, given⟩ := Option.isSome_iff_exists.mp needs
      exact ⟨_, .delay given⟩
    | scaleOut =>
      obtain ⟨target, given⟩ := Option.isSome_iff_exists.mp needs
      exact ⟨_, .scaleOut given⟩
    | scaleIn =>
      obtain ⟨target, given⟩ := Option.isSome_iff_exists.mp needs
      exact ⟨_, .scaleIn given⟩
    | input => exact ⟨_, .input⟩

end TaskSource

/-- Nothing that is needed to build a task is missing or unknown. -/
def TaskStep.Given (s : FileScope) : TaskStep → Prop
  | leaf word t => t.Needs s word ∧ ∀ text ∈ t.target, ∃ r, Ref.Spells word.targetKind? text r
  | decision d _ _ =>
    (∃ text, s.HasScript d.script text) ∧ ∀ text ∈ d.target, ∃ r, Ref.Spells none text r
  | loop l body => Text.blankText l.iterations = false ∧ StepSource.levelOf body ≠ []

/-! ### How a task is built -/

theorem FileScope.script_iff {s : FileScope} {subject text : String} {source : ScriptSource} :
    s.script subject source = .ok text ↔ s.HasScript source text := by
  constructor
  · obtain ⟨inline, file⟩ := source
    intro made
    cases inline with
    | none =>
      cases file with
      | none => cases made
      | some file => exact .file (mapError_ok made)
    | some inline =>
      cases file with
      | none =>
        cases made
        exact .inline text
      | some file => cases made
  · rintro (_ | ⟨readable⟩)
    · rfl
    · rename_i file
      change s.read file = .ok text
      rw [FileScope.read, Files.readAt, readable]
      rfl

theorem EntityKind.ofName?_eq_some {word : String} {kind : EntityKind} (h : ofName? word = some kind) :
    kind.name = word := by
  have same := List.find?_some h
  exact eq_of_beq same

theorem EntityKind.plain_name (kind : EntityKind) : Text.Plain kind.name := by cases kind <;> decide

theorem Ref.ofText_iff {text subject : String} {kind : Option EntityKind} {r : Ref} :
    Ref.ofText text kind subject = .ok r ↔ Ref.Spells kind text r := by
  constructor
  · intro made
    unfold Ref.ofText at made
    rcases Text.plain_or_segment text with plain | ⟨word, name, plain, rfl⟩
    · rw [plain.splitOnce?] at made
      cases kind with
      | none => cases made
      | some kind =>
        cases made
        exact .bare plain rfl
    · rw [plain.splitOnce?_segment] at made
      dsimp only at made
      split at made
      · rename_i known
        cases made
        obtain rfl := EntityKind.ofName?_eq_some known
        exact .keyed _ name
      · cases made
  · intro spells
    unfold Ref.ofText
    cases spells with
    | keyed kind name =>
      rw [kind.plain_name.splitOnce?_segment]
      dsimp only
      rw [EntityKind.ofName?_name]
    | bare plain known => rw [plain.splitOnce?, known]

namespace ActionScope

variable {s : ActionScope}

theorem target_iff {kind : Option EntityKind} {text : Option String} {target : Option Ref} :
    s.target kind text = .ok target ↔ Option.Rel (Ref.Spells kind) text target := by
  cases text with
  | none =>
    constructor
    · intro made
      cases made
      exact .none
    · intro spells
      cases spells
      rfl
  | some text =>
    rw [ActionScope.target, map_ok_iff]
    constructor
    · rintro ⟨r, made, rfl⟩
      exact .some (Ref.ofText_iff.mp made)
    · rintro (spells | _)
      exact ⟨_, Ref.ofText_iff.mpr spells, rfl⟩

theorem given_iff {α : Type} {task field : String} {value : Option α} {a : α} :
    s.given task field value = .ok a ↔ value = some a := by
  cases value with
  | none => exact ⟨nofun, nofun⟩
  | some b => exact ⟨fun made => congrArg some (Except.ok.inj made), fun given => by cases given; rfl⟩

/-- The work of a step with the type of script that the step gives. -/
def typed (t : TaskSource) (work : Work) : Work :=
  match t.scriptType with
  | some type => work.withScriptType type
  | none => work

section Step

variable {word : TaskWord} {t : TaskSource} {direction : ScaleDirection} {work : Work}
  {own target : Option Ref}

theorem typed_exec (t : TaskSource) (text : String) :
    typed t (.exec ⟨.sh, text⟩) = .exec ⟨t.scriptType.getD .sh, text⟩ := by
  unfold typed
  cases t.scriptType <;> rfl

theorem typed_setVariable (t : TaskSource) (text : String) (vars : List String) :
    typed t (.setVariable ⟨.sh, text⟩ vars) = .setVariable ⟨t.scriptType.getD .sh, text⟩ vars := by
  unfold typed
  cases t.scriptType <;> rfl

theorem typed_eq (other : ∀ type, work.withScriptType type = work) : typed t work = work := by
  unfold typed
  cases t.scriptType with
  | none => rfl
  | some type => exact other type

theorem request_eq (t : TaskSource) (url : String) :
    request t url = {
      method := t.method.getD "GET", url, body := t.body.getD "", headers := t.headers
      statusCodes := if t.statusCodes = [] then [200] else t.statusCodes
      responsePaths := t.responsePaths } := by
  unfold request
  cases codes : t.statusCodes <;> rfl

theorem scaling_ok (h : s.scaling direction t = .ok (work, own)) :
    work = .scaling direction (t.count.getD "1") ∧ (∃ text, t.target = some text) ∧
      ∃ r, own = some r ∧ s.target (some .deployment) t.target = .ok (some r) := by
  obtain ⟨text, given, h⟩ := bind_ok h
  obtain ⟨r, meant, h⟩ := bind_ok h
  cases pure_ok h
  rw [given_iff.mp given]
  exact ⟨rfl, ⟨text, rfl⟩, r, rfl, map_ok_iff.mpr ⟨r, meant, rfl⟩⟩

theorem scaling_eq {text : String} (given : t.target = some text)
    (known : s.target (some .deployment) t.target = .ok target) :
    s.scaling direction t = .ok (.scaling direction (t.count.getD "1"), target) := by
  rw [given] at known
  obtain ⟨r, meant, rfl⟩ := map_ok_iff.mp known
  rw [scaling, given_iff.mpr given, ok_bind, meant]
  rfl

/-- The target of a step is read with the kind that its word expects, whether the work comes with it
or not. -/
theorem work_ok (h : s.work t word = .ok (work, own)) :
    t.Does s.toFileScope word (typed t work) ∧
      s.target word.targetKind? t.target =
        own.elim (s.target none t.target) fun r => .ok (some r) := by
  cases word with
  | exec =>
    obtain ⟨text, script, h⟩ := bind_ok h
    cases pure_ok h
    rw [typed_exec]
    exact ⟨.exec (FileScope.script_iff.mp script), rfl⟩
  | setVariable =>
    obtain ⟨text, script, h⟩ := bind_ok h
    cases pure_ok h
    rw [typed_setVariable]
    exact ⟨.setVariable (FileScope.script_iff.mp script), rfl⟩
  | http =>
    obtain ⟨url, given, h⟩ := bind_ok h
    cases pure_ok h
    rw [typed_eq fun _ => rfl, request_eq]
    exact ⟨.http (given_iff.mp given), rfl⟩
  | delay =>
    obtain ⟨seconds, given, h⟩ := bind_ok h
    cases pure_ok h
    rw [typed_eq fun _ => rfl]
    exact ⟨.delay (given_iff.mp given), rfl⟩
  | scaleOut =>
    obtain ⟨rfl, ⟨text, given⟩, r, rfl, known⟩ := scaling_ok h
    rw [typed_eq fun _ => rfl]
    exact ⟨.scaleOut given, known⟩
  | scaleIn =>
    obtain ⟨rfl, ⟨text, given⟩, r, rfl, known⟩ := scaling_ok h
    rw [typed_eq fun _ => rfl]
    exact ⟨.scaleIn given, known⟩
  | input =>
    cases h
    rw [typed_eq fun _ => rfl]
    exact ⟨.input, rfl⟩

theorem does_work (does : t.Does s.toFileScope word work)
    (known : s.target word.targetKind? t.target = .ok target) :
    ∃ work' own, s.work t word = .ok (work', own) ∧ typed t work' = work := by
  cases does with
  | exec script =>
    refine ⟨_, _, bind_ok_iff.mpr ⟨_, FileScope.script_iff.mpr script, rfl⟩, typed_exec t _⟩
  | setVariable script =>
    refine ⟨_, _, bind_ok_iff.mpr ⟨_, FileScope.script_iff.mpr script, rfl⟩, typed_setVariable t _ _⟩
  | http given =>
    rw [← request_eq]
    exact ⟨_, _, bind_ok_iff.mpr ⟨_, given_iff.mpr given, rfl⟩, typed_eq fun _ => rfl⟩
  | delay given => exact ⟨_, _, bind_ok_iff.mpr ⟨_, given_iff.mpr given, rfl⟩, typed_eq fun _ => rfl⟩
  | scaleOut given | scaleIn given => exact ⟨_, _, scaling_eq given known, typed_eq fun _ => rfl⟩
  | input => exact ⟨_, _, rfl, typed_eq fun _ => rfl⟩

theorem step_eq (worked : s.work t word = .ok (work, own)) :
    s.step word t = do
      let target ← s.target word.targetKind? t.target
      return {
        name := t.name, work := typed t work, target, description := t.description
        retries := t.retries, timeoutSecs := t.timeoutSecs } := by
  rw [step, worked, ok_bind, (work_ok worked).2]
  cases own <;> rfl

theorem step_iff {st : Step} :
    s.step word t = .ok st ↔ ∃ work target, t.Does s.toFileScope word work ∧
      Option.Rel (Ref.Spells word.targetKind?) t.target target ∧
      st = {
        name := t.name, work, target, description := t.description, retries := t.retries
        timeoutSecs := t.timeoutSecs } := by
  constructor
  · intro made
    obtain ⟨⟨work, own⟩, worked, -⟩ := bind_ok made
    rw [step_eq worked] at made
    obtain ⟨target, known, made⟩ := bind_ok made
    exact ⟨_, target, (work_ok worked).1, target_iff.mp known, pure_ok made⟩
  · rintro ⟨_, target, does, spells, rfl⟩
    have known := (target_iff (s := s)).mpr spells
    obtain ⟨work, own, worked, rfl⟩ := does_work does known
    rw [step_eq worked, known]
    rfl

end Step

theorem decision_iff {d : DecisionSource} {header : DecisionHeader} :
    s.decision d = .ok header ↔ ∃ text target, s.HasScript d.script text ∧
      Option.Rel (Ref.Spells none) d.target target ∧
      header = {
        name := d.name, script := ⟨d.scriptType, text⟩, description := d.description, target } := by
  simp only [decision, bind_ok_iff, pure_ok_iff, FileScope.script_iff, target_iff, exists_and_left]

end ActionScope

end Blueprint
