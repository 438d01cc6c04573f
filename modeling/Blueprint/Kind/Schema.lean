import Blueprint.Json.Value
import Blueprint.Kind.Basic

/-!
# Schemas

What each kind of entity may refer to, which actions it has, and its attributes with their
defaults.
-/

namespace Blueprint

/-- Where a task without a target of its own runs. -/
inductive DefaultTarget where
  | self
  /-- The first entity of a slot. -/
  | slot (name : String)
  | none
  deriving DecidableEq, Repr, Inhabited

/-- A named list of references to entities of one kind. -/
structure SlotSpec where
  name : String
  target : EntityKind
  required : Bool := false
  many : Bool := true
  deriving DecidableEq, Repr, Inhabited

/-- Where the runbook of a system action stands in the payload. -/
inductive Placement where
  | actionList
  /-- A dotted path inside the entity. -/
  | field (path : String)
  deriving DecidableEq, Repr, Inhabited

structure SystemAction where
  name : String
  wire : String
  placement : Placement := .actionList
  deriving DecidableEq, Repr, Inhabited

structure KindSchema where
  slots : List SlotSpec := []
  systemActions : List SystemAction := []
  /-- Whether there may be other actions. -/
  userActions : Bool := false
  /-- Whether the payload shows system actions that are not declared. -/
  emitAllSystem : Bool := false
  requiredActions : List String := []
  defaultTarget : DefaultTarget := .none
  /-- The attributes in the order of the payload. -/
  defaults : List (String × Json) := []
  deriving Inhabited

namespace KindSchema

def slot? (s : KindSchema) (name : String) : Option SlotSpec :=
  s.slots.find? fun t => t.name == name

def systemAction? (s : KindSchema) (name : String) : Option SystemAction :=
  s.systemActions.find? fun a => a.name == name

def attrKeys (s : KindSchema) : List String := s.defaults.map (·.1)

def hasAttr (s : KindSchema) (key : String) : Bool := s.attrKeys.contains key

def attrDefault? (s : KindSchema) (key : String) : Option Json := Entries.get? key s.defaults

end KindSchema

namespace EntityKind

def serviceSchema : KindSchema where
  slots := [{ name := "depends_on", target := .service }]
  systemActions :=
    [{ name := "create", wire := "action_create" }, { name := "start", wire := "action_start" },
      { name := "stop", wire := "action_stop" }, { name := "restart", wire := "action_restart" },
      { name := "delete", wire := "action_delete" },
      { name := "soft_delete", wire := "action_soft_delete" }]
  userActions := true
  emitAllSystem := true
  defaultTarget := .self
  defaults :=
    [("singleton", .bool false), ("tier", .str ""), ("port_list", .arr []),
      ("container_spec", .obj [])]

def packageSchema : KindSchema where
  slots := [{ name := "services", target := .service, required := true }]
  systemActions :=
    [{ name := "install", wire := "install_runbook"
       placement := .field "options.install_runbook" },
      { name := "uninstall", wire := "uninstall_runbook"
        placement := .field "options.uninstall_runbook" }]
  emitAllSystem := true
  defaultTarget := .slot "services"
  defaults := [("type", .str "CUSTOM"), ("version", .str "")]

def substrateSchema : KindSchema where
  slots := [{ name := "credential", target := .credential, many := false }]
  systemActions :=
    [{ name := "pre_create", wire := "pre_action_create" },
      { name := "post_delete", wire := "post_action_delete" }]
  defaultTarget := .self
  defaults :=
    [("type", .str "AHV_VM"), ("os_type", .str "Linux"), ("account", .null),
      ("create_spec", .obj []),
      ("readiness_probe", .obj
        [("connection_type", .str "SSH"), ("connection_port", .int 22),
          ("address",
            .str "@@\x7bplatform.status.resources.nic_list[0].ip_endpoint_list[0].ip\x7d@@"),
          ("disable_readiness_probe", .bool false), ("delay_secs", .str "60")])]

def deploymentSchema : KindSchema where
  slots :=
    [{ name := "packages", target := .package, required := true },
      { name := "substrate", target := .substrate, required := true, many := false },
      { name := "depends_on", target := .deployment }]
  defaults :=
    [("min_replicas", .str "1"), ("max_replicas", .str "1"), ("default_replicas", .null),
      ("type", .str "GREENFIELD")]

def profileSchema : KindSchema where
  slots := [{ name := "deployments", target := .deployment, required := true }]
  userActions := true
  defaults := [("environment", .null)]

def credentialSchema : KindSchema where
  defaults :=
    [("username", .str ""), ("type", .str "PASSWORD"), ("secret", .str ""),
      ("default", .bool false)]

def endpointSchema : KindSchema where
  slots := [{ name := "credential", target := .credential, many := false }]
  defaults :=
    [("type", .str "Linux"), ("addresses", .arr []), ("port", .int 22), ("value_type", .str "IP")]

def blueprintSchema : KindSchema where
  slots :=
    [{ name := "services", target := .service }, { name := "packages", target := .package },
      { name := "substrates", target := .substrate },
      { name := "credentials", target := .credential },
      { name := "profiles", target := .profile, required := true },
      { name := "default_credential", target := .credential, many := false }]
  defaults := [("type", .str "USER")]

def runbookSchema : KindSchema where
  slots :=
    [{ name := "endpoints", target := .endpoint }, { name := "credentials", target := .credential },
      { name := "default_target", target := .endpoint, many := false }]
  systemActions := [{ name := "run", wire := "runbook", placement := .field "runbook" }]
  requiredActions := ["run"]
  defaultTarget := .slot "default_target"

def environmentSchema : KindSchema where
  slots :=
    [{ name := "substrates", target := .substrate },
      { name := "credentials", target := .credential }]
  defaults := [("accounts", .arr [])]

def projectSchema : KindSchema where
  defaults :=
    [("accounts", .arr []), ("environments", .arr []), ("users", .arr []),
      ("default_environment", .null), ("quotas", .null)]

def policySchema : KindSchema where
  defaults :=
    [("enabled", .bool true), ("event", .null), ("priority", .int 0), ("conditions", .arr []),
      ("approver_sets", .arr [])]

def schema : EntityKind → KindSchema
  | service => serviceSchema
  | package => packageSchema
  | substrate => substrateSchema
  | deployment => deploymentSchema
  | profile => profileSchema
  | credential => credentialSchema
  | endpoint => endpointSchema
  | blueprint => blueprintSchema
  | runbook => runbookSchema
  | environment => environmentSchema
  | project => projectSchema
  | policy => policySchema
  | mixin => { userActions := true }

/-- The name of an action in the payload. -/
def actionWireName (k : EntityKind) (action : String) : String :=
  match k.schema.systemAction? action with
  | some a => a.wire
  | none => action

def actionPath (k : EntityKind) (action : String) : String :=
  match k.schema.systemAction? action with
  | some { placement := .field path, .. } => path
  | _ => "action_list[" ++ k.actionWireName action ++ "].runbook"

end EntityKind

end Blueprint
