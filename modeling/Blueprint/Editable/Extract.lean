import Blueprint.Editable.Basic

/-!
# Extracting editables

Collects the runtime variables of every reachable entity and of its actions, and the attributes
that it lists as editable.
-/

namespace Blueprint.EditableTree

def rootSection : String := "root"

def resourcesPath : String := "spec.resources"

/-- The section of an entity and its path in the payload. -/
def place (e : Entity) (isRoot : Bool) : String × String :=
  match e.kind.collection? with
  | some collection =>
    if isRoot then (rootSection, resourcesPath)
    else (collection, resourcesPath ++ "." ++ (Selector.mk collection (some e.name)).text)
  | none => (rootSection, resourcesPath)

def variableFields (base : String) (vs : List Variable) : List EditableField :=
  (vs.filter (·.isRuntime)).map fun v =>
    { name := v.name
      path := base ++ "." ++ (Selector.mk "variable_list" (some v.name)).text ++ ".value"
      value := .str v.wireValue }

def attrFields (base : String) (e : Entity) : List EditableField :=
  e.editables.map fun path =>
    { name := path, path := base ++ "." ++ path, value := (e.attrValue? path).getD .null }

def actionEntries (base : String) (e : Entity) : List EditableAction :=
  e.actions.values.filterMap fun a =>
    let vars := variableFields (base ++ "." ++ e.kind.actionPath a.name) a.vars.values
    if vars.isEmpty then none else some ⟨e.kind.actionWireName a.name, vars⟩

def entry (base : String) (e : Entity) : EditableEntity where
  name := e.name
  vars := variableFields base e.vars.values
  attrs := attrFields base e
  actions := actionEntries base e

def addEntity (r : ResolvedGraph) (t : EditableTree) (id : EntityId) :
    Except CompileError EditableTree := do
  let e ← r.entity id
  let (name, base) := place e (id == r.root)
  return t.add name (entry base e)

def extract (r : ResolvedGraph) : Except CompileError EditableTree :=
  r.reachable.foldlM (addEntity r) {}

end Blueprint.EditableTree
