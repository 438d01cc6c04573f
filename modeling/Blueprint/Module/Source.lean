import Blueprint.Json.Value
import Blueprint.Variable.Basic

/-!
# Declarations of a module

What a module file says, before names are looked up and the files that it names are read.
-/

namespace Blueprint

/-- A script in place, or in a file; exactly one of them has to be given. -/
structure ScriptSource where
  inline : Option String := none
  file : Option String := none
  deriving DecidableEq, Repr, Inhabited

inductive VariableWord where
  | simple | secret | options | computed
  deriving DecidableEq, Repr, Inhabited

structure VariableSource where
  word : VariableWord := .simple
  value : String := ""
  constraints : Constraints := {}
  choices : List String := []
  /-- A computed value is a secret. -/
  masked : Bool := false
  script : ScriptSource := {}
  scriptType : ScriptType := .sh
  url : Option String := none
  method : Option String := none
  responsePath : Option String := none
  deriving DecidableEq, Repr, Inhabited

inductive TaskWord where
  | exec | setVariable | http | delay | scaleOut | scaleIn | input
  deriving DecidableEq, Repr, Inhabited

structure TaskSource where
  name : String
  description : String := ""
  script : ScriptSource := {}
  scriptType : Option ScriptType := none
  target : Option String := none
  retries : Nat := 0
  timeoutSecs : Nat := 0
  vars : List String := []
  method : Option String := none
  url : Option String := none
  body : Option String := none
  headers : OrderedMap String := ∅
  statusCodes : List Nat := []
  responsePaths : OrderedMap String := ∅
  seconds : Option Nat := none
  count : Option String := none
  inputs : List String := []
  deriving Inhabited

structure DecisionSource where
  name : String
  description : String := ""
  script : ScriptSource := {}
  scriptType : ScriptType := .sh
  target : Option String := none
  deriving DecidableEq, Repr, Inhabited

structure LoopSource where
  name : String
  description : String := ""
  iterations : String
  loopVariable : Option String := none
  deriving DecidableEq, Repr, Inhabited

inductive StepSource where
  | task (word : TaskWord) (t : TaskSource)
  | parallel (steps : List StepSource)
  | serial (steps : List StepSource)
  | decision (d : DecisionSource) (success failure : List StepSource)
  | loop (l : LoopSource) (body : List StepSource)
  deriving Inhabited

structure ActionSource where
  description : String := ""
  critical : Bool := false
  /-- A variable that is none is malformed. -/
  vars : OrderedMap (Option VariableSource) := ∅
  steps : List StepSource := []
  deriving Inhabited

structure EntitySource where
  bases : List String := []
  /-- The name, where it is not the key. -/
  name : Option String := none
  description : String := ""
  /-- A variable that is none is malformed. -/
  vars : OrderedMap (Option VariableSource) := ∅
  actions : OrderedMap ActionSource := ∅
  refs : OrderedMap (List String) := ∅
  attrs : OrderedMap Json := ∅
  editables : List String := []
  createSpecFile : Option String := none
  secretFile : Option String := none
  deriving Inhabited

structure ModuleSource where
  version : String := moduleVersion
  kind : Option EntityKind := none
  name : Option String := none
  description : String := ""
  imports : List String := []
  /-- The declarations in the order of the sections, each with its kind and its key. -/
  declarations : List (EntityKind × String × EntitySource) := []
  root : Option EntitySource := none
  deriving Inhabited

end Blueprint
