import Blueprint.Error
import Blueprint.Task.Step

/-!
# Building task trees

An action body is written step by step. Opening a scope gives a token, and `close` takes the token
of the innermost open scope only.

A step waits for the one before it. The members of a parallel scope all wait for what came before
the scope, and what follows waits for every member. The branches of a decision and the body of a
loop are levels of their own, and the whole decision or loop is one member of its scope.

A call that is refused leaves the builder as it was, with two exceptions: `openLoop` keeps a name
although the count is missing, and `close` drops a decision or loop that lacks a part.
-/

namespace Blueprint

/-- A decision whose branches are being written. -/
structure PendingDecision where
  header : DecisionHeader
  predecessors : List String
  success : Option TaskTree := none
  failure : Option TaskTree := none
  deriving Inhabited

namespace PendingDecision

def branch? (d : PendingDecision) : Branch → Option TaskTree
  | .success => d.success
  | .failure => d.failure

def setBranch (d : PendingDecision) (t : TaskTree) : Branch → PendingDecision
  | .success => { d with success := some t }
  | .failure => { d with failure := some t }

end PendingDecision

structure PendingLoop where
  header : LoopHeader
  predecessors : List String
  deriving Inhabited

inductive FrameKind where
  | root
  | serial
  | parallel
  | decision (d : PendingDecision)
  | branch (b : Branch)
  | loop (l : PendingLoop)
  deriving Inhabited

def FrameKind.scope? : FrameKind → Option ScopeKind
  | root => none
  | serial => some .serial
  | parallel => some .parallel
  | decision _ => some .decision
  | branch b => some (.branch b)
  | loop _ => some .loop

/-- An open scope. -/
structure Frame where
  seq : Nat
  kind : FrameKind
  /-- What every member of a parallel scope waits for. -/
  entry : List String
  /-- What the next member of any other scope waits for. -/
  cursor : List String
  /-- The members of a parallel scope, which what follows waits for. -/
  exits : List String := []
  members : Nat := 0
  deriving Inhabited

/-- The receipt of an opened scope. -/
structure ScopeToken where
  builder : Nat
  seq : Nat
  kind : ScopeKind
  deriving DecidableEq, Repr, Inhabited

structure TaskBuilder where
  /-- Tells builders apart. -/
  id : Nat
  action : String
  nextSeq : Nat
  /-- Open scopes, innermost first; the last one is the action body. -/
  frames : List Frame
  /-- The nodes of the open levels, innermost first. -/
  levels : List (List TaskNode)
  names : List String
  deriving Inhabited

namespace TaskBuilder

def new (id : Nat) (action : String) : TaskBuilder where
  id := id
  action := action
  nextSeq := 1
  frames := [⟨0, .root, [], [], [], 0⟩]
  levels := [[]]
  names := []

/-- The outcome of a call: the builder afterwards, and the result or why it was refused. -/
abbrev Outcome (α : Type) := TaskBuilder × Except TaskFault α

def reserve (b : TaskBuilder) (name : String) : Except TaskFault TaskBuilder :=
  if Text.blankText name then .error .emptyName
  else if b.names.contains name then .error (.duplicateName name)
  else .ok { b with names := name :: b.names }

/-- What the next member of the innermost scope waits for. -/
def nextPredecessors (b : TaskBuilder) : Except TaskFault (List String) :=
  match b.frames with
  | [] => .error .emptyStack
  | f :: _ =>
    match f.kind with
    | .parallel => .ok f.entry
    | .decision d => .error (.stepInDecision d.header.name)
    | _ => .ok f.cursor

/-- Counts a member of the innermost scope that is over when all of `outflow` are. -/
def recordMember (b : TaskBuilder) (outflow : List String) : TaskBuilder :=
  match b.frames with
  | [] => b
  | f :: fs =>
    let f := { f with members := f.members + 1 }
    let f := match f.kind with
      | .parallel => { f with exits := f.exits ++ outflow }
      | _ => { f with cursor := outflow }
    { b with frames := f :: fs }

def place (b : TaskBuilder) (n : TaskNode) : TaskBuilder :=
  let levels := match b.levels with
    | [] => []
    | l :: ls => (l ++ [n]) :: ls
  { b with levels }.recordMember [n.name]

def pushFrame (b : TaskBuilder) (kind : FrameKind) (scope : ScopeKind)
    (predecessors : List String) : Outcome ScopeToken :=
  ({ b with
      nextSeq := b.nextSeq + 1
      frames := ⟨b.nextSeq, kind, predecessors, predecessors, [], 0⟩ :: b.frames },
    .ok ⟨b.id, b.nextSeq, scope⟩)

def pushLevel (b : TaskBuilder) : TaskBuilder := { b with levels := [] :: b.levels }

/-! ### Parts of calls

A part that is refused ends the call, with the builder as it is by then. -/

section Parts

variable {α : Type} {b : TaskBuilder} {fault : TaskFault}

/-- Goes on with what the next member waits for. -/
def waiting (b : TaskBuilder) (next : List String → Outcome α) : Outcome α :=
  match b.nextPredecessors with
  | .ok predecessors => next predecessors
  | .error fault => (b, .error fault)

/-- Goes on with the name taken. -/
def naming (b : TaskBuilder) (name : String) (next : TaskBuilder → Outcome α) : Outcome α :=
  match b.reserve name with
  | .ok b => next b
  | .error fault => (b, .error fault)

theorem waiting_ok {entry : List String} (next : List String → Outcome α)
    (h : b.nextPredecessors = .ok entry) : b.waiting next = next entry := by
  rw [waiting, h]

theorem waiting_error (next : List String → Outcome α) (h : b.nextPredecessors = .error fault) :
    b.waiting next = (b, .error fault) := by
  rw [waiting, h]

theorem naming_ok {name : String} {b' : TaskBuilder} (next : TaskBuilder → Outcome α)
    (h : b.reserve name = .ok b') : b.naming name next = next b' := by
  rw [naming, h]

theorem naming_error {name : String} (next : TaskBuilder → Outcome α)
    (h : b.reserve name = .error fault) : b.naming name next = (b, .error fault) := by
  rw [naming, h]

theorem waiting_cases {motive : Outcome α → Prop} {next : List String → Outcome α}
    (refused : ∀ fault, b.nextPredecessors = .error fault → motive (b, .error fault))
    (waits : ∀ entry, b.nextPredecessors = .ok entry → motive (next entry)) :
    motive (b.waiting next) := by
  cases found : b.nextPredecessors with
  | error fault =>
    rw [waiting_error next found]
    exact refused fault found
  | ok entry =>
    rw [waiting_ok next found]
    exact waits entry found

theorem naming_cases {motive : Outcome α → Prop} {name : String} {next : TaskBuilder → Outcome α}
    (refused : ∀ fault, b.reserve name = .error fault → motive (b, .error fault))
    (named : ∀ b', b.reserve name = .ok b' → motive (next b')) : motive (b.naming name next) := by
  cases found : b.reserve name with
  | error fault =>
    rw [naming_error next found]
    exact refused fault found
  | ok b' =>
    rw [naming_ok next found]
    exact named b' found

end Parts

/-! ### Calls -/

def step (b : TaskBuilder) (s : Step) : Outcome Unit :=
  b.waiting fun predecessors => b.naming s.name fun b =>
    (b.place (s.node predecessors), .ok ())

def openSerial (b : TaskBuilder) : Outcome ScopeToken :=
  b.waiting fun predecessors => b.pushFrame .serial .serial predecessors

def openParallel (b : TaskBuilder) : Outcome ScopeToken :=
  b.waiting fun predecessors => b.pushFrame .parallel .parallel predecessors

def openDecision (b : TaskBuilder) (header : DecisionHeader) : Outcome ScopeToken :=
  b.waiting fun predecessors => b.naming header.name fun b =>
    b.pushFrame (.decision { header, predecessors }) .decision []

def openBranch (b : TaskBuilder) (branch : Branch) : Outcome ScopeToken :=
  match b.frames with
  | { kind := .decision d, .. } :: _ =>
    if (d.branch? branch).isSome then (b, .error (.branchTwice branch))
    else b.pushLevel.pushFrame (.branch branch) (.branch branch) []
  | _ => (b, .error .branchOutsideDecision)

/-- The name is taken before the count is looked at. -/
def openLoop (b : TaskBuilder) (header : LoopHeader) : Outcome ScopeToken :=
  b.waiting fun predecessors => b.naming header.name fun b =>
    if Text.blankText header.iterations then (b, .error (.noIterations header.name))
    else b.pushLevel.pushFrame (.loop { header, predecessors }) .loop []

def popLevel (b : TaskBuilder) : TaskTree × TaskBuilder :=
  match b.levels with
  | [] => ([], b)
  | l :: ls => (l, { b with levels := ls })

/-- Hands a finished branch to the decision that is innermost. -/
def fillBranch (b : TaskBuilder) (branch : Branch) (t : TaskTree) : Outcome Unit :=
  match b.frames with
  | f :: fs =>
    match f.kind with
    | .decision d =>
      ({ b with frames := { f with kind := .decision (d.setBranch t branch) } :: fs }, .ok ())
    | _ => (b, .error .branchClosedOutside)
  | [] => (b, .error .branchClosedOutside)

/-- Turns a scope that was taken off the stack into what it stands for. -/
def closeFrame (b : TaskBuilder) (f : Frame) : Outcome Unit :=
  match f.kind with
  | .root => (b, .error .closeBody)
  | .serial => (if 0 < f.members then b.recordMember f.cursor else b, .ok ())
  | .parallel => (if 0 < f.members then b.recordMember f.exits else b, .ok ())
  | .branch branch =>
    let (t, b) := b.popLevel
    b.fillBranch branch t
  | .decision d =>
    match d.success, d.failure with
    | some success, some failure => (b.place (d.header.node d.predecessors success failure), .ok ())
    | none, _ => (b, .error (.missingBranch d.header.name .success))
    | _, none => (b, .error (.missingBranch d.header.name .failure))
  | .loop l =>
    let (body, b) := b.popLevel
    if body.isEmpty then (b, .error (.emptyLoop l.header.name))
    else (b.place (l.header.node l.predecessors body), .ok ())

/-- Closes the innermost open scope, whose token it has to be. -/
def close (b : TaskBuilder) (token : ScopeToken) : Outcome Unit :=
  if token.builder ≠ b.id then (b, .error (.foreignToken token.kind))
  else
    match b.frames with
    | [] => (b, .error .emptyStack)
    | [_] => (b, .error (.nothingOpen token.kind))
    | f :: fs =>
      if f.seq ≠ token.seq then
        (b, .error (.mismatchedClose (f.kind.scope?.getD .serial) token.kind))
      else { b with frames := fs }.closeFrame f

/-- The finished body; every opened scope has to be closed. -/
def finish (b : TaskBuilder) : Except TaskFault TaskTree :=
  match b.frames.head?.bind (·.kind.scope?) with
  | some scope => .error (.neverClosed scope)
  | none => .ok b.popLevel.1

end TaskBuilder

end Blueprint
