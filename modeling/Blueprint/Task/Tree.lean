import Blueprint.Data.OrderedMap
import Blueprint.Kind.Basic

/-!
# Task trees

One level of an action body is a list of nodes, each naming the siblings that have to finish first.
Decisions and loops hold levels of their own. `TaskTree.allNodes` lists a tree depth first.
-/

namespace Blueprint

inductive ScaleDirection where
  | out | into
  deriving DecidableEq, Repr, Inhabited

def ScaleDirection.wire : ScaleDirection → String
  | out => "SCALEOUT"
  | into => "SCALEIN"

structure HttpRequest where
  method : String
  url : String
  body : String := ""
  headers : OrderedMap String := ∅
  /-- The codes that count as success. -/
  statusCodes : List Nat := [200]
  /-- The variables that are taken from the answer, each with its path. -/
  responsePaths : OrderedMap String := ∅
  deriving Inhabited

/-- What a task without nested levels does. -/
inductive Work where
  | exec (s : Script)
  | setVariable (s : Script) (vars : List String)
  | http (r : HttpRequest)
  | scaling (direction : ScaleDirection) (count : String)
  | delay (seconds : Nat)
  | input (inputs : List String)
  deriving Inhabited

/-- What all tasks have. -/
structure TaskHead where
  name : String
  description : String := ""
  /-- Without a target of its own a task takes the default of its entity. -/
  target : Option Ref := none
  /-- Siblings that have to finish first. -/
  predecessors : List String := []
  retries : Nat := 0
  timeoutSecs : Nat := 0
  deriving Inhabited

inductive TaskNode where
  | leaf (head : TaskHead) (work : Work)
  | decision (head : TaskHead) (script : Script) (success failure : List TaskNode)
  | loop (head : TaskHead) (iterations loopVariable : String) (body : List TaskNode)
  deriving Inhabited

abbrev TaskTree := List TaskNode

namespace Work

def wire : Work → String
  | exec _ => "EXEC"
  | setVariable _ _ => "SET_VARIABLE"
  | http _ => "HTTP"
  | scaling _ _ => "SCALING"
  | delay _ => "DELAY"
  | input _ => "INPUT"

def needsTarget : Work → Bool
  | exec _ | setVariable _ _ | scaling _ _ => true
  | _ => false

def targetKind? : Work → Option EntityKind
  | scaling _ _ => some .deployment
  | _ => none

def texts : Work → List String
  | exec s | setVariable s _ => [s.text]
  | http r => r.url :: r.body :: r.headers.values
  | scaling _ count => [count]
  | delay _ | input _ => []

/-- The names that a task gives to the tasks of its action. -/
def outputs : Work → List String
  | setVariable _ vars => vars
  | http r => r.responsePaths.keys
  | input inputs => inputs
  | _ => []

end Work

namespace TaskNode

def head : TaskNode → TaskHead
  | leaf h _ => h
  | decision h _ _ _ => h
  | loop h _ _ _ => h

def name (n : TaskNode) : String := n.head.name

def target (n : TaskNode) : Option Ref := n.head.target

def predecessors (n : TaskNode) : List String := n.head.predecessors

def wire : TaskNode → String
  | leaf _ w => w.wire
  | decision _ _ _ _ => "DECISION"
  | loop _ _ _ _ => "WHILE_LOOP"

def needsTarget : TaskNode → Bool
  | leaf _ w => w.needsTarget
  | decision _ _ _ _ => true
  | loop _ _ _ _ => false

def targetKind? : TaskNode → Option EntityKind
  | leaf _ w => w.targetKind?
  | _ => none

def texts : TaskNode → List String
  | leaf _ w => w.texts
  | decision _ s _ _ => [s.text]
  | loop _ iterations _ _ => [iterations]

/-- The names that a task gives to the tasks of its action. -/
def outputs : TaskNode → List String
  | leaf _ w => w.outputs
  | decision _ _ _ _ => []
  | loop _ _ loopVariable _ => [loopVariable]

mutual

def all : TaskNode → List TaskNode
  | leaf h w => [leaf h w]
  | decision h s success failure =>
    decision h s success failure :: (allOf success ++ allOf failure)
  | loop h iterations loopVariable body => loop h iterations loopVariable body :: allOf body

def allOf : List TaskNode → List TaskNode
  | [] => []
  | n :: ns => all n ++ allOf ns

end

end TaskNode

namespace TaskTree

/-- Every node, nested ones included, depth first. -/
def allNodes (t : TaskTree) : List TaskNode := TaskNode.allOf t

def get? (t : TaskTree) (name : String) : Option TaskNode := t.find? fun n => n.name == name

/-- The pairs of a predecessor and its successor on this level. -/
def edges (t : TaskTree) : List (String × String) :=
  t.flatMap fun n => n.predecessors.map fun p => (p, n.name)

end TaskTree

end Blueprint
