import Blueprint.Editable.Basic
import Blueprint.Payload.Collection

/-!
# Documents

The root's own fields and the collections it brings along make the resources of a document.
`Payload.document` fails if an editable path leads nowhere.
-/

namespace Blueprint.Payload

def blueprintKinds : List EntityKind :=
  [.service, .package, .substrate, .deployment, .profile, .credential]

def collectionField (p : Payload) (k : EntityKind) : Rendered (String × Json) := do
  return (k.collection?.getD "", ← p.collection k)

def blueprintFields (p : Payload) (id : EntityId) : Rendered (List (String × Json)) := do
  let collections ← blueprintKinds.mapM p.collectionField
  let default ← p.slotRef id "default_credential"
  return collections ++
    (if default.isNull then [] else [("default_credential_local_reference", default)]) ++
    [("published_service_definition_list", .arr []), ("client_attrs", .obj [])]

def runbookFields (p : Payload) (id : EntityId) : Rendered (List (String × Json)) := do
  let runbook ← p.runbookFor id "run"
  let endpoints ← p.collectionField .endpoint
  let credentials ← p.collectionField .credential
  return [("runbook", runbook), endpoints, credentials,
    ("default_target_reference", ← p.slotRef id "default_target")]

def environmentFields (p : Payload) (e : Entity) : Rendered (List (String × Json)) := do
  let substrates ← p.collectionField .substrate
  let credentials ← p.collectionField .credential
  return [substrates, credentials,
    ("account_reference_list", ← p.lookupList e "accounts" .account)]

def projectFields (p : Payload) (e : Entity) : Rendered (List (String × Json)) := do
  let accounts ← p.lookupList e "accounts" .account
  let environments ← p.lookupList e "environments" .environment
  let users ← p.lookupList e "users" .user
  let default ← match e.attrText? "default_environment" with
    | some env => p.lookup .environment env e.key.text
    | none => pure .null
  return [("account_reference_list", accounts), ("environment_reference_list", environments),
    ("user_reference_list", users), ("default_environment_reference", default)]

def rootFields (p : Payload) (id : EntityId) (e : Entity) : Rendered (List (String × Json)) :=
  match e.kind with
  | .blueprint => p.blueprintFields id
  | .runbook => p.runbookFields id
  | .environment => p.environmentFields e
  | .project => p.projectFields e
  | .policy => return []
  | k => .error (.document (.notDocumentRoot k))

def resources (p : Payload) : Rendered Json := do
  let id := p.resolved.root
  let e ← p.entity id
  let fields ← p.rootFields id e
  return .obj (attrs e ++ fields ++ [("variable_list", ← p.vars e)])

def metadata (p : Payload) (root : Entity) : Rendered Json := do
  let project ← match p.context.project with
    | some name => do pure [("project_reference", ← p.lookup .project name "document")]
    | none => pure []
  return .obj ([("kind", .str root.kind.refKind), ("name", .str root.name),
    ("spec_version", .int 1), ("categories", .obj [])] ++ project)

def checkResolved (p : Payload) (id : EntityId) : Rendered Unit := do
  if !p.resolved.isResolved id then
    .error (.document (.neverResolved (← p.entity id).key))

/-- The document without its editables. -/
def body (p : Payload) : Rendered (List (String × Json)) := do
  p.resolved.reachable.forM p.checkResolved
  let root ← p.entity p.resolved.root
  let resources ← p.resources
  let metadata ← p.metadata root
  return [("api_version", .str p.context.apiVersion), ("metadata", metadata),
    ("spec", .obj [("name", .str root.name), ("description", .str root.description),
      ("resources", resources)])]

def document (p : Payload) (editables : EditableTree) : Rendered Json := do
  let fields ← p.body
  match editables.paths.find? fun path => ((Json.obj fields).lookup? path).isNone with
  | some path => .error (.document (.missingEditable path))
  | none => return .obj (fields ++ [("runtime_editables", editables.toJson)])

end Blueprint.Payload
