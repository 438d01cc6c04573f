import Blueprint.Entity.Compose
import Blueprint.Entity.Validate

/-!
# Declaring entities

A draft collects what an entity says itself. `EntityDraft.build` lays it over what the bases offer
and validates the result.
-/

namespace Blueprint

structure EntityDraft where
  kind : EntityKind
  name : String
  description : Option String := none
  bases : List Entity := []
  vars : List Variable := []
  actions : List Action := []
  references : OrderedMap (List Ref) := ∅
  attrs : OrderedMap Json := ∅
  editables : List String := []
  deriving Inhabited

namespace EntityDraft

def key (d : EntityDraft) : EntityKey := ⟨d.kind, d.name⟩

def addReference (d : EntityDraft) (slot : String) (r : Ref) : EntityDraft :=
  { d with references := d.references.insert slot ((d.references.get? slot).getD [] ++ [r]) }

def repeated? : List String → List String → Option String
  | _, [] => none
  | seen, n :: ns => if seen.contains n then some n else repeated? (n :: seen) ns

def checkVariables (d : EntityDraft) : Except ValidationFault Unit :=
  match repeated? [] (d.vars.map (·.name)) with
  | some name => .error (.variableTwice name)
  | none => .ok ()

def checkActions : List String → List Action → Except ValidationFault Unit
  | _, [] => .ok ()
  | seen, a :: as =>
    if !Text.isIdentifier a.name then .error (.badActionName a.name)
    else if seen.contains a.name then .error (.actionTwice a.name)
    else checkActions (a.name :: seen) as

def overlay (d : EntityDraft) (e : Entity) : Entity :=
  { e with
    description := d.description.getD e.description
    vars := e.vars.insertAll (.ofList (d.vars.map fun v => (v.name, v)))
    actions := e.actions.insertAll (.ofList (d.actions.map fun a => (a.name, a)))
    references := e.references.insertAll d.references
    attrs := e.attrs.insertAll d.attrs
    editables := addNew e.editables d.editables }

def build (d : EntityDraft) : Except CompileError Entity := do
  let subject := d.key.text
  if Text.blankText d.name then .error (.validation subject .emptyName)
  let base ← (Entity.ofBases d.key d.bases).mapError (.merge d.key)
  d.checkVariables.mapError (.validation subject)
  (checkActions [] d.actions).mapError (.validation subject)
  (d.overlay base).finalize

end EntityDraft

end Blueprint
