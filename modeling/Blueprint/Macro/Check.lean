import Blueprint.Graph.Resolve

/-!
# Checking macros

Every macro of a reachable entity has to name something in scope: what the server provides, a
reachable entity, a variable of the root or of a profile, a variable of the entity itself, for
packages one of their services, and inside an action its variables and the outputs of its tasks.
-/

namespace Blueprint.Macro

/-- A macro that is not in scope, or a text that cannot be scanned. -/
structure Warning where
  /-- Entity, action and holder of the text. -/
  site : String
  fault : Fault
  deriving DecidableEq, Repr, Inhabited

def Warning.text (w : Warning) : String := w.site ++ ": " ++ w.fault.message

/-- The names that the server always provides. -/
def builtins : List String := ["platform", "address", "id", "name", "endpoint", "vm", "app"]

def isBuiltin (name : String) : Bool :=
  "calm_".toList.isPrefixOf name.toList || builtins.contains name

/-- The names that are visible somewhere. -/
abbrev Scope := List String

def Scope.knows (s : Scope) (body : String) : Bool :=
  isBuiltin (head body) || s.contains (head body) || s.contains body

def actionNames (a : Action) : Scope := a.vars.keys ++ a.tree.allNodes.flatMap TaskNode.outputs

def sharedNames (r : ResolvedGraph) : Except CompileError Scope := do
  let names ← r.reachable.mapM fun id => do
    let e ← r.entity id
    return e.name :: if e.kind = .profile || id = r.root then e.vars.keys else []
  return names.flatten

def entityScope (r : ResolvedGraph) (shared : Scope) (id : EntityId) :
    Except CompileError Scope := do
  let e ← r.entity id
  let services := if e.kind = .package then r.slot id "services" else []
  let names ← services.mapM fun s => return (← r.entity s).vars.keys
  return shared ++ e.vars.keys ++ names.flatten

/-- A text with the place it stands in and what is visible there. -/
structure Site where
  name : String
  scope : Scope
  text : String

def entitySites (r : ResolvedGraph) (shared : Scope) (id : EntityId) :
    Except CompileError (List Site) := do
  let e ← r.entity id
  let outer ← entityScope r shared id
  let vars := e.vars.values.flatMap fun v =>
    v.texts.map fun t => ⟨e.name ++ "." ++ v.name, outer, t⟩
  let actions := e.actions.values.flatMap fun a =>
    let scope := outer ++ actionNames a
    let path := e.name ++ "." ++ a.name ++ "."
    (a.vars.values.flatMap fun v => v.texts.map fun t => ⟨path ++ v.name, scope, t⟩) ++
      a.tree.allNodes.flatMap fun n => n.texts.map fun t => ⟨path ++ n.name, scope, t⟩
  return vars ++ actions

/-- What is wrong with a text, in the order of its macros. -/
def Site.faults (s : Site) : List Fault :=
  match scan s.text with
  | .error position => [.unclosed position]
  | .ok bodies => (bodies.filter fun b => !s.scope.knows b).map .unknown

/-- A warning ends a strict check. -/
def report (strict : Bool) (found : List Warning) (w : Warning) :
    Except CompileError (List Warning) :=
  if strict then .error (.validation w.site (.badMacro w.fault)) else .ok (found ++ [w])

def checkEntity (r : ResolvedGraph) (strict : Bool) (shared : Scope) (found : List Warning)
    (id : EntityId) : Except CompileError (List Warning) := do
  let sites ← entitySites r shared id
  (sites.flatMap fun s => s.faults.map fun f => ⟨s.name, f⟩).foldlM (report strict) found

def check (r : ResolvedGraph) (strict : Bool) : Except CompileError (List Warning) := do
  let shared ← sharedNames r
  r.reachable.foldlM (checkEntity r strict shared) []

end Blueprint.Macro
