import Blueprint.Graph.Resolve
import Blueprint.Json.Path

/-!
# Runtime editables

The fields that may be overridden at launch, each with its value and its path in the payload. They
are grouped by the collection of their entity.
-/

namespace Blueprint

structure EditableField where
  name : String
  path : String
  value : Json
  deriving Inhabited

structure EditableAction where
  name : String
  vars : List EditableField
  deriving Inhabited

structure EditableEntity where
  name : String
  vars : List EditableField
  attrs : List EditableField
  actions : List EditableAction
  deriving Inhabited

structure EditableTree where
  sections : OrderedMap (List EditableEntity) := ∅
  deriving Inhabited

def EditableField.toJson (f : EditableField) : Json :=
  .obj [("name", .str f.name), ("path", .str f.path), ("value", f.value)]

def EditableAction.toJson (a : EditableAction) : Json :=
  .obj [("name", .str a.name), ("variable_list", .arr (a.vars.map (·.toJson)))]

namespace EditableEntity

def isEmpty (e : EditableEntity) : Bool :=
  e.vars.isEmpty && e.attrs.isEmpty && e.actions.isEmpty

def fields (e : EditableEntity) : List EditableField :=
  e.vars ++ e.attrs ++ e.actions.flatMap (·.vars)

def toJson (e : EditableEntity) : Json :=
  .obj [("name", .str e.name), ("variable_list", .arr (e.vars.map (·.toJson))),
    ("attrs", .arr (e.attrs.map (·.toJson))), ("action_list", .arr (e.actions.map (·.toJson)))]

end EditableEntity

namespace EditableTree

def isEmpty (t : EditableTree) : Bool := t.sections.isEmpty

def sectionEntities (t : EditableTree) (name : String) : List EditableEntity :=
  (t.sections.get? name).getD []

def fields (t : EditableTree) : List EditableField :=
  t.sections.values.flatten.flatMap (·.fields)

def paths (t : EditableTree) : List String := t.fields.map (·.path)

def toJson (t : EditableTree) : Json :=
  .obj (t.sections.entries.map fun (name, es) => (name, .arr (es.map (·.toJson))))

/-- Adds an entity to a section; one without fields is left out. -/
def add (t : EditableTree) (name : String) (e : EditableEntity) : EditableTree :=
  if e.isEmpty then t else ⟨t.sections.insert name (t.sectionEntities name ++ [e])⟩

end EditableTree

end Blueprint
