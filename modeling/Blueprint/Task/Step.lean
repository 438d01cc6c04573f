import Blueprint.Task.Tree

/-!
# Steps

Tasks before they are placed: leaf steps, and the headers of decisions and loops. A setting that
does not fit the work of a step leaves it as it is.
-/

namespace Blueprint

structure Step where
  name : String
  work : Work
  description : String := ""
  target : Option Ref := none
  retries : Nat := 0
  timeoutSecs : Nat := 0
  deriving Inhabited

structure DecisionHeader where
  name : String
  script : Script
  description : String := ""
  target : Option Ref := none
  deriving Inhabited

structure LoopHeader where
  name : String
  iterations : String
  loopVariable : String := "iteration"
  description : String := ""
  deriving Inhabited

namespace Work

def withScriptType (t : ScriptType) : Work → Work
  | exec s => exec { s with type := t }
  | setVariable s vars => setVariable { s with type := t } vars
  | w => w

def mapHttp (f : HttpRequest → HttpRequest) : Work → Work
  | http r => http (f r)
  | w => w

end Work

namespace Step

def withScriptType (t : ScriptType) (s : Step) : Step := { s with work := s.work.withScriptType t }

def withBody (text : String) (s : Step) : Step :=
  { s with work := s.work.mapHttp fun r => { r with body := text } }

def withHeaders (headers : List (String × String)) (s : Step) : Step :=
  { s with work := s.work.mapHttp fun r =>
      { r with headers := headers.foldl (fun m (k, v) => m.insert k v) r.headers } }

def withStatusCodes (codes : List Nat) (s : Step) : Step :=
  { s with work := s.work.mapHttp fun r => { r with statusCodes := codes } }

def withResponsePaths (paths : List (String × String)) (s : Step) : Step :=
  { s with work := s.work.mapHttp fun r =>
      { r with responsePaths := paths.foldl (fun m (k, v) => m.insert k v) r.responsePaths } }

def node (s : Step) (predecessors : List String) : TaskNode :=
  .leaf
    { name := s.name, description := s.description, target := s.target, predecessors
      retries := s.retries, timeoutSecs := s.timeoutSecs }
    s.work

end Step

def DecisionHeader.node (d : DecisionHeader) (predecessors : List String)
    (success failure : TaskTree) : TaskNode :=
  .decision { name := d.name, description := d.description, target := d.target, predecessors }
    d.script success failure

def LoopHeader.node (l : LoopHeader) (predecessors : List String) (body : TaskTree) : TaskNode :=
  .loop { name := l.name, description := l.description, predecessors } l.iterations l.loopVariable
    body

end Blueprint
