import Blueprint.Entity.Declare
import Blueprint.Module.Reader
import Blueprint.Module.Steps
import Blueprint.Variable.Declare

/-!
# Declarations under loading

A declaration is an entity of a module together with the place it was found at. `Declaration.build`
reads the files that it names and builds the entity over its bases.
-/

namespace Blueprint

structure Declaration where
  kind : EntityKind
  /-- What `extends` refers to. -/
  label : String
  depth : Nat
  file : Path
  source : EntitySource
  isRoot : Bool := false
  deriving Inhabited

namespace Declaration

def key (d : Declaration) : EntityKey := ⟨d.kind, d.source.name.getD d.label⟩

def subject (d : Declaration) : String := d.key.text

end Declaration

namespace FileScope

/-! ### Variables -/

def computed (s : FileScope) (name : String) (v : VariableSource) :
    Except CompileError ComputedSource :=
  match v.url with
  | none => do return .script ⟨v.scriptType, ← s.script name v.script⟩
  | some url =>
    if v.script.inline.isNone && v.script.file.isNone then
      .ok (.http (v.method.getD "GET") url (v.responsePath.getD "$"))
    else .error (.validation name .scriptAndUrl)

def variableKind (s : FileScope) (name : String) (v : VariableSource) :
    Except CompileError VarKind :=
  match v.word with
  | .simple => .ok .simple
  | .secret => .ok .secret
  | .options => .ok (.options v.choices)
  | .computed => do return .computed (← s.computed name v) v.masked

def readVariable (s : FileScope) (name : String) :
    Option VariableSource → Except CompileError Variable
  | none => .error (.validation name .malformedVariable)
  | some v => do Variable.declare name v.value (← s.variableKind name v) v.constraints

/-! ### Actions -/

def action (s : FileScope) (entity name : String) (a : ActionSource) :
    Except CompileError Action := do
  let tree ← ActionScope.tree ⟨s, entity ++ "." ++ name⟩ name a.steps
  let vars ← a.vars.entries.mapM fun (name, v) => do
    return (name, ← s.readVariable name v)
  return {
    name, description := a.description, critical := a.critical, vars := .ofList vars
    tree }

/-! ### Attributes from files -/

/-- The text of a file that gives an attribute to entities of one kind. -/
def attributeText (s : FileScope) (d : Declaration) (owner : EntityKind) (key file : String) :
    Except CompileError String :=
  if d.kind ≠ owner then .error (.validation d.subject (.fileOwner owner key))
  else if d.source.attrs.contains key then .error (.validation d.subject (.inlineAndFile key))
  else s.read file

def createSpec (s : FileScope) (d : Declaration) (file : String) : Except CompileError Json := do
  let text ← s.attributeText d .substrate "create_spec" file
  match (Yaml.Node.read? text).bind Yaml.Node.json? with
  | some j => return j
  | none => .error (.parse file .badFormat)

def secret (s : FileScope) (d : Declaration) (file : String) : Except CompileError Json := do
  return .str (Text.trimEnd (← s.attributeText d .credential "secret" file))

/-- The attributes of a declaration, those from files last. -/
def attributes (s : FileScope) (d : Declaration) : Except CompileError (OrderedMap Json) := do
  let attrs := d.source.attrs
  let attrs ←
    match d.source.createSpecFile with
    | some file => attrs.insert "create_spec" <$> s.createSpec d file
    | none => .ok attrs
  match d.source.secretFile with
  | some file => attrs.insert "secret" <$> s.secret d file
  | none => return attrs

/-! ### References -/

/-- The targets of a slot; a name alone is of the kind that the slot takes. -/
def references (d : Declaration) (slot : String) (targets : List String) :
    Except CompileError (List Ref) :=
  let kind := (d.kind.schema.slot? slot).map (·.target)
  targets.mapM fun text => Ref.ofText text kind d.subject

end FileScope

namespace Declaration

def draft (d : Declaration) (files : Files) (bases : List Entity) :
    Except CompileError EntityDraft := do
  let s : FileScope := ⟨files, d.file⟩
  let vars ← d.source.vars.entries.mapM fun (name, v) => s.readVariable name v
  let actions ← d.source.actions.entries.mapM fun (name, a) => s.action d.subject name a
  let references ← d.source.refs.entries.mapM fun (slot, targets) => do
    return (slot, ← FileScope.references d slot targets)
  return {
    kind := d.kind, name := d.key.name, description := d.source.description, bases, vars
    actions, references := .ofList references, attrs := ← s.attributes d
    editables := d.source.editables }

def build (d : Declaration) (files : Files) (bases : List Entity) : Except CompileError Entity := do
  (← d.draft files bases).build

end Declaration

end Blueprint
