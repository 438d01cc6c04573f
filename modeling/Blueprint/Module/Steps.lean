import Blueprint.Module.Files
import Blueprint.Task.Builder
import Blueprint.Text.Split

/-!
# Steps of a module

Builds the task tree of an action from its steps. Errors name the scope of the action, the task, or
what is wrong with the tree.
-/

namespace Blueprint

/-- A reference: a kind and a name with a slash between them, or a name of a kind that is known. -/
def Ref.ofText (text : String) (kind : Option EntityKind) (subject : String) :
    Except CompileError Ref :=
  match Text.splitOnce? '/' text, kind with
  | some (word, name), _ =>
    match EntityKind.ofName? word with
    | some kind => .ok (.named ⟨kind, name⟩)
    | none => .error (.validation subject (.unknownKind word))
  | none, some kind => .ok (.named ⟨kind, text⟩)
  | none, none => .error (.validation subject (.bareReference text))

/-- The result of an accepted call, with the builder afterwards. -/
def TaskBuilder.accepted {α : Type} (b : TaskBuilder) (r : TaskBuilder.Outcome α) :
    Except CompileError (TaskBuilder × α) :=
  match r with
  | (b', .ok a) => .ok (b', a)
  | (_, .error fault) => .error (.structural b.action fault)

/-- Where an action is read. -/
structure ActionScope extends FileScope where
  /-- The action with its entity. -/
  subject : String

namespace ActionScope

def target (s : ActionScope) (kind : Option EntityKind) :
    Option String → Except CompileError (Option Ref)
  | none => .ok none
  | some text => some <$> Ref.ofText text kind s.subject

def given {α : Type} (s : ActionScope) (task field : String) : Option α → Except CompileError α
  | some a => .ok a
  | none => .error (.validation (s.subject ++ "." ++ task) (.missingField field))

/-- The request of an HTTP step; without a method it gets. -/
def request (t : TaskSource) (url : String) : HttpRequest :=
  let r : HttpRequest :=
    { method := t.method.getD "GET", url, body := t.body.getD "", headers := t.headers
      responsePaths := t.responsePaths }
  if t.statusCodes.isEmpty then r else { r with statusCodes := t.statusCodes }

def scaling (s : ActionScope) (direction : ScaleDirection) (t : TaskSource) :
    Except CompileError (Work × Option Ref) := do
  let text ← s.given t.name "target" t.target
  let target ← Ref.ofText text (some .deployment) s.subject
  return (.scaling direction (t.count.getD "1"), some target)

/-- What a task does; scaling comes with its target. -/
def work (s : ActionScope) (t : TaskSource) :
    TaskWord → Except CompileError (Work × Option Ref)
  | .exec => do return (.exec ⟨.sh, ← s.script t.name t.script⟩, none)
  | .setVariable => do return (.setVariable ⟨.sh, ← s.script t.name t.script⟩ t.vars, none)
  | .http => do return (.http (request t (← s.given t.name "url" t.url)), none)
  | .delay => do return (.delay (← s.given t.name "seconds" t.seconds), none)
  | .scaleOut => s.scaling .out t
  | .scaleIn => s.scaling .into t
  | .input => .ok (.input t.inputs, none)

def step (s : ActionScope) (word : TaskWord) (t : TaskSource) : Except CompileError Step := do
  let (work, target) ← s.work t word
  let work := match t.scriptType with
    | some type => work.withScriptType type
    | none => work
  let target ← if target.isSome then pure target else s.target none t.target
  return {
    name := t.name, work, target, description := t.description, retries := t.retries
    timeoutSecs := t.timeoutSecs }

def decision (s : ActionScope) (d : DecisionSource) : Except CompileError DecisionHeader := do
  let text ← s.script d.name d.script
  return {
    name := d.name, script := ⟨d.scriptType, text⟩, description := d.description
    target := ← s.target none d.target }

def loop (l : LoopSource) : LoopHeader :=
  let h : LoopHeader :=
    { name := l.name, iterations := l.iterations, description := l.description }
  match l.loopVariable with
  | some v => { h with loopVariable := v }
  | none => h

mutual

def place (s : ActionScope) (b : TaskBuilder) : StepSource → Except CompileError TaskBuilder
  | .task word t => do
    let (b, _) ← b.accepted (b.step (← s.step word t))
    return b
  | .parallel steps => do
    let (b, token) ← b.accepted b.openParallel
    let b ← placeAll s b steps
    let (b, _) ← b.accepted (b.close token)
    return b
  | .serial steps => do
    let (b, token) ← b.accepted b.openSerial
    let b ← placeAll s b steps
    let (b, _) ← b.accepted (b.close token)
    return b
  | .decision d success failure => do
    let header ← s.decision d
    let (b, token) ← b.accepted (b.openDecision header)
    let (b, branch) ← b.accepted (b.openBranch .success)
    let b ← placeAll s b success
    let (b, _) ← b.accepted (b.close branch)
    let (b, branch) ← b.accepted (b.openBranch .failure)
    let b ← placeAll s b failure
    let (b, _) ← b.accepted (b.close branch)
    let (b, _) ← b.accepted (b.close token)
    return b
  | .loop l body => do
    let (b, token) ← b.accepted (b.openLoop (loop l))
    let b ← placeAll s b body
    let (b, _) ← b.accepted (b.close token)
    return b

def placeAll (s : ActionScope) (b : TaskBuilder) : List StepSource → Except CompileError TaskBuilder
  | [] => .ok b
  | step :: steps => do placeAll s (← place s b step) steps

end

def tree (s : ActionScope) (action : String) (steps : List StepSource) :
    Except CompileError TaskTree := do
  let b ← s.placeAll (.new 0 action) steps
  b.finish.mapError (.structural action)

end ActionScope

end Blueprint
