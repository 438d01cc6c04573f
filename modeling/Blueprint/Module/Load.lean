import Blueprint.Graph.Basic
import Blueprint.Module.Inheritance

/-!
# Loading modules

`load` collects the declarations of a module and of all that it imports, level by level, and
declares the entities they stand for in one graph. A module is read once, on the shortest way from
the root; its parameters go on to what it imports.
-/

namespace Blueprint

/-- A module to be read. -/
structure Visit where
  file : Path
  /-- Imports between the root module and this one. -/
  level : Nat
  params : Params

namespace Visit

def root (v : Visit) (m : ModuleSource) : Except CompileError (List Declaration) :=
  if v.level = 0 then
    match m.kind, m.name with
    | none, _ => .error (.parse v.file.text .noKind)
    | _, none => .error (.parse v.file.text .noName)
    | some kind, some name =>
      let e := m.root.getD {}
      let e := if e.description.isEmpty then { e with description := m.description } else e
      .ok [{ kind, label := name, depth := 0, file := v.file, source := e, isRoot := true }]
  else if m.kind.isSome || m.root.isSome then .error (.parse v.file.text .importedRoot)
  else .ok []

def collect (v : Visit) (files : Files) :
    Except CompileError (List Declaration × List Visit) := do
  let text ← files.readAt v.file
  let (m, params) ← (ModuleSource.read text v.params).mapError (.parse v.file.text)
  let declared := m.declarations.map fun (kind, label, source) =>
    { kind, label, depth := moduleDepth + v.level, file := v.file, source : Declaration }
  let imports := m.imports.map fun name =>
    { file := v.file.beside ⟨name⟩, level := v.level + 1, params : Visit }
  return (declared ++ (← v.root m), imports)

end Visit

/-- Reads the modules of a queue and what they import; `left` is how many may still be read. -/
def collectAll (files : Files) (left : Nat) (done : List Path) (found : List Declaration) :
    List Visit → Except CompileError (List Declaration)
  | [] => .ok found
  | v :: queue =>
    if done.any v.file.same then collectAll files left done found queue
    else
      match left with
      | 0 => .error (.unreadable v.file.text .noSuchFile)
      | left + 1 => do
        let (declared, imports) ← v.collect files
        collectAll files left (v.file :: done) (found ++ declared) (queue ++ imports)
termination_by queue => (left, queue.length)

/-- Builds one declaration and puts it into the graph; mixins stay outside. -/
def declareBuilt (files : Files) (d : Declaration) (bases : List Entity) (g : EntityGraph) :
    Except CompileError (EntityGraph × Entity) := do
  let e ← d.build files bases
  if d.isRoot then return ((← g.declareRoot e).1, e)
  else if d.kind = .mixin then return (g, e)
  else return ((g.declareAt e d.depth).1, e)

/-- Builds declarations in an order; `built` holds the entities so far by their places. -/
def declareAll (files : Files) (ds : List Declaration) (bs : List (List Nat))
    (built : List (Nat × Entity)) (g : EntityGraph) : List Nat → Except CompileError EntityGraph
  | [] => .ok g
  | i :: order =>
    match ds[i]? with
    | none => declareAll files ds bs built g order
    | some d => do
      let bases := ((bs[i]?).getD []).filterMap fun j => List.lookup j built
      let (g, e) ← declareBuilt files d bases g
      declareAll files ds bs ((i, e) :: built) g order

def load (files : Files) (file : Path) : Except CompileError EntityGraph := do
  let ds ← collectAll files files.count [] [] [⟨file, 0, ∅⟩]
  let bs ← Inheritance.bases ds
  declareAll files ds bs [] .empty (← Inheritance.order ds bs)

end Blueprint
