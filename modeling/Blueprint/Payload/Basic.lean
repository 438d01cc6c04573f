import Blueprint.Context
import Blueprint.Graph.Resolve
import Blueprint.Payload.Identifier
import Blueprint.Variable.Payload

/-!
# Parts of the payload

References, attributes and variables of a resolved entity in their wire form.
-/

namespace Blueprint

/-- What a payload is rendered from. -/
structure Payload where
  resolved : ResolvedGraph
  context : CompileContext
  deriving Inhabited

/-- The outcome of rendering a part. -/
abbrev Rendered (α : Type) := Except CompileError α

namespace Payload

def entity (p : Payload) (id : EntityId) : Rendered Entity := p.resolved.entity id

def entityPath (e : Entity) : String := e.kind.name ++ "/" ++ e.name

def identifier (p : Payload) (path : String) : Rendered Uuid := do
  let root ← p.entity p.resolved.root
  return identifierAt root.name path

def ownedId (p : Payload) (e : Entity) (path : String) : Rendered Uuid :=
  p.identifier (entityPath e ++ "/" ++ path)

def reference (kind name : String) (id : Uuid) : Json :=
  .obj [("kind", .str kind), ("name", .str name), ("uuid", .str id.text)]

def localRef (p : Payload) (id : EntityId) : Rendered Json := do
  let e ← p.entity id
  return reference e.kind.refKind e.name (← p.identifier (entityPath e))

def slotRefs (p : Payload) (id : EntityId) (slot : String) : Rendered Json := do
  return .arr (← (p.resolved.slot id slot).mapM p.localRef)

/-- The reference of a slot for one, or null. -/
def slotRef (p : Payload) (id : EntityId) (slot : String) : Rendered Json :=
  match (p.resolved.slot id slot).head? with
  | some t => p.localRef t
  | none => return .null

def attrs (e : Entity) : List (String × Json) := e.kind.schema.attrKeys.map fun k => (k, e.attr k)

/-- What all entities of a collection begin with. -/
def baseFields (p : Payload) (e : Entity) : Rendered (List (String × Json)) := do
  let id ← p.identifier (entityPath e)
  return [("name", .str e.name), ("description", .str e.description), ("uuid", .str id.text)] ++
    attrs e

def lookup (p : Payload) (t : LookupTable) (name source : String) : Rendered Json :=
  match p.context.lookup? t name with
  | some id => return reference t.name name id
  | none => .error (.unresolved source t.name name)

def lookupList (p : Payload) (e : Entity) (key : String) (t : LookupTable) : Rendered Json := do
  let refs ← ((e.attr key).asArray?.getD []).mapM fun name =>
    match name.asString? with
    | some name => p.lookup t name e.key.text
    | none => .error (.validation e.key.text (.nameList key))
  return .arr refs

/-- The variables of an entity, or with a scope those of an action. -/
def variableList (p : Payload) (e : Entity) (scope : String) (vs : List Variable) :
    Rendered Json := do
  let items ← vs.mapM fun v => return v.payload (← p.ownedId e (scope ++ "variable/" ++ v.name))
  return .arr items

def vars (p : Payload) (e : Entity) : Rendered Json := p.variableList e "" e.vars.values

end Payload

end Blueprint
