/-!
# Entity kinds

The kinds of containers a document is made of, their names, and the key that identifies a
declaration.
-/

namespace Blueprint

inductive EntityKind where
  | service | package | substrate | deployment | profile | credential | endpoint
  | blueprint | runbook | environment | project | policy
  /-- A bundle of declarations for any kind, only ever used as a base. -/
  | mixin
  deriving DecidableEq, Repr, Inhabited

namespace EntityKind

def all : List EntityKind :=
  [service, package, substrate, deployment, profile, credential, endpoint, blueprint, runbook,
    environment, project, policy, mixin]

def name : EntityKind → String
  | service => "service"
  | package => "package"
  | substrate => "substrate"
  | deployment => "deployment"
  | profile => "profile"
  | credential => "credential"
  | endpoint => "endpoint"
  | blueprint => "blueprint"
  | runbook => "runbook"
  | environment => "environment"
  | project => "project"
  | policy => "policy"
  | mixin => "mixin"

def ofName? (s : String) : Option EntityKind := all.find? fun k => k.name == s

def isRoot : EntityKind → Bool
  | blueprint | runbook | environment | project | policy => true
  | _ => false

/-- The kind word of a local reference in the payload. -/
def refKind : EntityKind → String
  | service => "app_service"
  | package => "app_package"
  | substrate => "app_substrate"
  | deployment => "app_blueprint_deployment"
  | profile => "app_profile"
  | credential => "app_credential"
  | endpoint => "app_endpoint"
  | policy => "approval_policy"
  | k => k.name

/-- The payload list that holds the entities of this kind. -/
def collection? : EntityKind → Option String
  | service => some "service_definition_list"
  | package => some "package_definition_list"
  | substrate => some "substrate_definition_list"
  | deployment => some "deployment_definition_list"
  | profile => some "app_profile_list"
  | credential => some "credential_definition_list"
  | endpoint => some "endpoint_definition_list"
  | _ => none

theorem mem_all (k : EntityKind) : k ∈ all := by cases k <;> decide

theorem ofName?_name (k : EntityKind) : ofName? k.name = some k := by cases k <;> decide

end EntityKind

/-- What a declaration is known by. -/
structure EntityKey where
  kind : EntityKind
  name : String
  deriving DecidableEq, Repr, Inhabited

def EntityKey.text (k : EntityKey) : String := k.kind.name ++ " '" ++ k.name ++ "'"

/-- The place of a declaration in its graph. -/
abbrev EntityId := Nat

/-- A pointer to an entity: by key, or to one declared instance. -/
inductive Ref where
  | named (key : EntityKey)
  | bound (id : EntityId) (key : EntityKey)
  deriving DecidableEq, Repr, Inhabited

def Ref.key : Ref → EntityKey
  | .named key => key
  | .bound _ key => key

def Ref.kind (r : Ref) : EntityKind := r.key.kind

/-- The receipt of a declaration. -/
structure Handle where
  id : EntityId
  key : EntityKey
  deriving DecidableEq, Repr, Inhabited

def Handle.ref (h : Handle) : Ref := .bound h.id h.key

/-- Whether an action is one of the hooks of its entity's kind. -/
inductive ActionKind where
  | system | user
  deriving DecidableEq, Repr, Inhabited

def ActionKind.name : ActionKind → String
  | system => "system"
  | user => "user"

/-- The interpreter of an inline script. -/
inductive ScriptType where
  | sh | escript | powershell
  deriving DecidableEq, Repr, Inhabited

namespace ScriptType

def all : List ScriptType := [sh, escript, powershell]

/-- The word a module uses. -/
def name : ScriptType → String
  | sh => "sh"
  | escript => "escript"
  | powershell => "powershell"

/-- The word the payload uses. -/
def wire : ScriptType → String
  | sh => "sh"
  | escript => "static_py3"
  | powershell => "npsscript"

def ofName? (s : String) : Option ScriptType := all.find? fun k => k.name == s

end ScriptType

structure Script where
  type : ScriptType := .sh
  text : String
  deriving DecidableEq, Repr, Inhabited

end Blueprint
