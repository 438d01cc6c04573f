import Blueprint.Entity.Attribute
import Blueprint.Error
import Blueprint.Text.Identifier

/-!
# Validating entities

`Entity.validate` checks an entity against the schema of its kind. Mixins are never checked, as
they are not of the kind that will use them.
-/

namespace Blueprint.Entity

def checkSlot (s : KindSchema) (slot : String) (refs : List Ref) : Except ValidationFault Unit :=
  match s.slot? slot with
  | none => .error (.unknownSlot slot)
  | some spec => do
    if !spec.many && 1 < refs.length then .error (.singleSlot slot spec.target)
    refs.forM fun r =>
      if r.kind = spec.target then .ok () else .error (.slotTarget slot spec.target r.key)

def checkAttrKey (s : KindSchema) (key : String) : Except ValidationFault Unit :=
  if s.hasAttr key then .ok () else .error (.unknownAttribute key)

def checkEditable (s : KindSchema) (path : String) : Except ValidationFault Unit :=
  if s.hasAttr ((Text.split '.' path).headD "") then .ok () else .error (.editableAttribute path)

def checkContent (e : Entity) : Except ValidationFault Unit := do
  let s := e.kind.schema
  e.references.entries.forM fun (slot, refs) => checkSlot s slot refs
  e.attrs.keys.forM (checkAttrKey s)
  e.editables.forM (checkEditable s)
  s.requiredActions.forM fun name =>
    if e.actions.contains name then .ok () else .error (.missingAction name)

/-- A system action if the schema lists it, otherwise a user action. -/
def actionKind (s : KindSchema) (name : String) : ActionKind :=
  if (s.systemAction? name).isSome then .system else .user

def classify (s : KindSchema) (a : Action) : Action := { a with kind := actionKind s a.name }

def checkActionKind (kind : EntityKind) (name : String) (a : Action) :
    Except ValidationFault Unit :=
  let expected := actionKind kind.schema name
  if expected = .user && !kind.schema.userActions then .error (.actionRefused kind name)
  else if a.kind = expected then .ok ()
  else .error (.actionKind name expected)

def checkTask (s : KindSchema) (n : TaskNode) : Except TaskFault Unit :=
  match n.target with
  | none =>
    if n.needsTarget && s.defaultTarget = .none then .error (.needsTarget n.name) else .ok ()
  | some r =>
    match n.targetKind? with
    | some k => if r.kind = k then .ok () else .error (.wrongReference n.name k r.key)
    | none => .ok ()

def inScope {ε : Type} (place : ε → CompileError) (r : Except ε Unit) : Except CompileError Unit :=
  r.mapError place

def checkAction (e : Entity) (name : String) (a : Action) : Except CompileError Unit := do
  inScope (.validation e.key.text) (checkActionKind e.kind name a)
  let scope := e.actionScope name
  a.vars.keys.forM fun v =>
    if Text.isIdentifier v then .ok () else .error (.validation scope (.actionVariable v))
  a.tree.allNodes.forM fun n => inScope (.structural scope) (checkTask e.kind.schema n)

def validate (e : Entity) : Except CompileError Unit :=
  if e.kind = .mixin then .ok ()
  else do
    inScope (.validation e.key.text) e.checkContent
    e.actions.entries.forM fun (name, a) => e.checkAction name a
    inScope (.validation e.key.text) e.checkAttributes

/-- Classifies the actions of an entity by its schema, and validates it. -/
def finalize (e : Entity) : Except CompileError Entity :=
  if e.kind = .mixin then .ok e
  else
    let e := { e with actions := e.actions.mapValues (classify e.kind.schema) }
    e.validate.map fun _ => e

end Blueprint.Entity
