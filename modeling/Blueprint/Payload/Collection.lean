import Blueprint.Payload.Runbook

/-!
# Collections

The definitions of the reachable entities, one collection for each kind.
-/

namespace Blueprint.Payload

/-- Variables and listed actions, with which most entities end. -/
def ending (p : Payload) (id : EntityId) (e : Entity) : Rendered (List (String × Json)) := do
  return [("variable_list", ← p.vars e), ("action_list", ← p.actionList id)]

def service (p : Payload) (id : EntityId) (e : Entity) : Rendered Json := do
  let base ← p.baseFields e
  let dependsOn ← p.slotRefs id "depends_on"
  return .obj (base ++ [("depends_on_list", dependsOn)] ++ (← p.ending id e))

def package (p : Payload) (id : EntityId) (e : Entity) : Rendered Json := do
  let base ← p.baseFields e
  let services ← p.slotRefs id "services"
  let vars ← p.vars e
  let install ← p.runbookFor id "install"
  let uninstall ← p.runbookFor id "uninstall"
  return .obj (base ++
    [("service_local_reference_list", services), ("variable_list", vars),
      ("options", .obj [("install_runbook", install), ("uninstall_runbook", uninstall)]),
      ("action_list", ← p.actionList id)])

/-- The account by its identifier. -/
def accountFields (p : Payload) (e : Entity) : Rendered (List (String × Json)) :=
  match e.attrText? "account" with
  | some account => do
    let r ← p.lookup .account account e.key.text
    return [("account_uuid", (r.get? "uuid").getD .null)]
  | none => return []

/-- The readiness probe logs in with the credential. -/
def withLogin (credential : Json) : String × Json → String × Json
  | ("readiness_probe", .obj fields) =>
    ("readiness_probe", .obj (Entries.put "login_credential_local_reference" credential fields))
  | field => field

def substrate (p : Payload) (id : EntityId) (e : Entity) : Rendered Json := do
  let base ← p.baseFields e
  let account ← p.accountFields e
  let credential ← p.slotRef id "credential"
  let base := if credential.isNull then base else base.map (withLogin credential)
  return .obj (base ++ account ++ (← p.ending id e))

def deployment (p : Payload) (id : EntityId) (e : Entity) : Rendered Json := do
  let base ← p.baseFields e
  let packages ← p.slotRefs id "packages"
  let substrate ← p.slotRef id "substrate"
  let dependsOn ← p.slotRefs id "depends_on"
  return .obj (base ++
    [("package_local_reference_list", packages), ("substrate_local_reference", substrate),
      ("depends_on_list", dependsOn)] ++ (← p.ending id e))

/-- The environment by its identifier. -/
def environmentRefs (p : Payload) (e : Entity) : Rendered (List Json) :=
  match e.attrText? "environment" with
  | some env => return [← p.lookup .environment env e.key.text]
  | none => return []

def profile (p : Payload) (id : EntityId) (e : Entity) : Rendered Json := do
  let base ← p.baseFields e
  let environments ← p.environmentRefs e
  let deployments ← p.slotRefs id "deployments"
  return .obj (base ++
    [("environment_reference_list", .arr environments),
      ("deployment_local_reference_list", deployments)] ++ (← p.ending id e))

/-- A secret is wrapped, so that the server knows that there is one. -/
def wrapSecret : String × Json → String × Json
  | ("secret", secret) =>
    ("secret", .obj [("value", secret), ("attrs", .obj
      [("is_secret_modified", .bool (secret.asString?.any fun s => !s.isEmpty))])])
  | field => field

def credential (p : Payload) (e : Entity) : Rendered Json := do
  return .obj ((← p.baseFields e).map wrapSecret)

def endpoint (p : Payload) (id : EntityId) (e : Entity) : Rendered Json := do
  let base ← p.baseFields e
  return .obj (base ++ [("login_credential_local_reference", ← p.slotRef id "credential")])

def definition (p : Payload) (id : EntityId) : Rendered Json := do
  let e ← p.entity id
  match e.kind with
  | .service => p.service id e
  | .package => p.package id e
  | .substrate => p.substrate id e
  | .deployment => p.deployment id e
  | .profile => p.profile id e
  | .credential => p.credential e
  | .endpoint => p.endpoint id e
  | k => .error (.document (.notInDocument k))

def repeatedName? : List String → List String → Option String
  | _, [] => none
  | seen, n :: ns => if seen.contains n then some n else repeatedName? (n :: seen) ns

/-- The definitions of all reachable entities of a kind, whose names have to differ. -/
def collection (p : Payload) (k : EntityKind) : Rendered Json := do
  let ids := p.resolved.reachableOfKind k
  let names ← ids.mapM fun id => return (← p.entity id).name
  match repeatedName? [] names with
  | some name => .error (.document (.duplicateName k name))
  | none => return .arr (← ids.mapM p.definition)

end Blueprint.Payload
