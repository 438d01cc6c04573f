import Blueprint.Entity.Basic
import Blueprint.Kind.Schema
import Blueprint.Text.Split

/-!
# Attributes

Attribute values with their defaults, and what each kind demands of its own.
-/

namespace Blueprint

/-- A whole number that may also be written as a text. -/
def Json.asInt? : Json → Option Int
  | .int i => if Text.inInt64 i then some i else none
  | .str s => Text.int64? (Text.trimChars s.toList)
  | _ => none

def Json.follow? : Json → List String → Option Json
  | j, [] => some j
  | j, k :: ks =>
    match j.get? k with
    | some j => j.follow? ks
    | none => none

namespace Entity

/-- The value of an attribute, or the default of its kind. -/
def attr? (e : Entity) (key : String) : Option Json :=
  (e.attrs.get? key).orElse fun _ => e.kind.schema.attrDefault? key

def attrValue? (e : Entity) (path : String) : Option Json :=
  match Text.split '.' path with
  | [] => none
  | top :: rest => (e.attr? top).bind fun j => j.follow? rest

def attr (e : Entity) (key : String) : Json := (e.attr? key).getD .null

def attrText? (e : Entity) (key : String) : Option String := (e.attr key).asString?

def attrInt? (e : Entity) (key : String) : Option Int := (e.attr key).asInt?

/-! ### Rules of single kinds -/

abbrev AttributeCheck := Except ValidationFault Unit

def checkOneOf (e : Entity) (key : String) (allowed : List String) : AttributeCheck :=
  match e.attrText? key with
  | some s => if allowed.contains s then .ok () else .error (.notOneOf key allowed)
  | none => .error (.notOneOf key allowed)

def packageTypes : List String := ["CUSTOM", "DEB", "CNTR_IMAGE", "SUBSTRATE_IMAGE"]

def substrateTypes : List String :=
  ["AHV_VM", "VMWARE_VM", "AWS_VM", "AZURE_VM", "GCP_VM", "EXISTING_VM", "K8S_POD"]

/-- Replica counts that are no integers are not compared. -/
def checkReplicas (e : Entity) : AttributeCheck :=
  match e.attrInt? "min_replicas", e.attrInt? "max_replicas" with
  | some min, some max =>
    if max < min then .error (.replicaBounds min max)
    else
      match e.attrInt? "default_replicas" with
      | some n => if n < min || max < n then .error (.replicaDefault n min max) else .ok ()
      | none => .ok ()
  | _, _ => .ok ()

def checkProject (e : Entity) : AttributeCheck :=
  match e.attrText? "default_environment" with
  | none => .ok ()
  | some name =>
    let listed := ((e.attr "environments").asArray?.getD []).any fun j => j.asString? == some name
    if listed then .ok () else .error (.unlistedEnvironment name)

def checkPolicy (e : Entity) : AttributeCheck := do
  if ((e.attrText? "event").getD "").isEmpty then .error .noEvent
  if ((e.attr "approver_sets").asArray?.getD []).isEmpty then .error .noApprovers
  if (e.attrInt? "priority").isNone then .error .badPriority

/-- What the kind of an entity demands of its attributes. -/
def checkAttributes (e : Entity) : AttributeCheck :=
  match e.kind with
  | .package => e.checkOneOf "type" packageTypes
  | .substrate => do
    e.checkOneOf "type" substrateTypes
    e.checkOneOf "os_type" ["Linux", "Windows"]
  | .deployment => do
    e.checkOneOf "type" ["GREENFIELD", "BROWNFIELD"]
    e.checkReplicas
  | .credential => e.checkOneOf "type" ["PASSWORD", "KEY"]
  | .endpoint => do
    e.checkOneOf "type" ["Linux", "Windows", "HTTP"]
    e.checkOneOf "value_type" ["IP", "VM"]
    if (e.attr "addresses").asArray?.isNone then .error .addressList
  | .project => e.checkProject
  | .policy => e.checkPolicy
  | .service | .profile | .blueprint | .runbook | .environment | .mixin => .ok ()

end Entity

end Blueprint
