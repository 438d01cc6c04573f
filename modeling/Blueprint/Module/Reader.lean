import Blueprint.Module.Source
import Blueprint.Yaml.Json
import Blueprint.Yaml.Shown
import Blueprint.Module.Template

/-!
# Reading modules

Typed reading of a module that is filled in. Modules and entities are read the open way, variables,
actions and references the closed way.
-/

namespace Blueprint

open Yaml (Value Record)

/-! ### Scripts and variables -/

def ScriptType.ofValue? (v : Value) : Option ScriptType := do
  ofName? (← v.word? (all.map name))

def VarType.ofValue? (v : Value) : Option VarType := do
  ofName? (← v.word? (all.map name))

def VariableWord.ofValue? (v : Value) : Option VariableWord := do
  match ← v.word? ["simple", "secret", "options", "computed"] with
  | "simple" => return simple
  | "secret" => return secret
  | "options" => return options
  | "computed" => return computed
  | _ => none

def ScriptSource.ofRecord? (r : Record) : Option ScriptSource := do
  return ⟨← r.optional "script" Value.text?, ← r.optional "script_file" Value.text?⟩

def anyText? (v : Value) : Option String := some v.text

namespace VariableSource

def names : List String :=
  ["value", "default", "kind", "type", "runtime", "mandatory", "hidden", "regex", "choices",
    "plaintext", "secret", "script", "script_file", "script_type", "url", "method",
    "response_path", "label", "description"]

def constraints? (r : Record) : Option Constraints := do
  return {
    type := ← r.field "type" VarType.ofValue? .string
    isRuntime := ← r.field "runtime" Value.flag? false
    isMandatory := ← r.field "mandatory" Value.flag? false
    isHidden := ← r.field "hidden" Value.flag? false
    regex := ← r.optional "regex" Value.text?
    default := ← r.optional "default" anyText?
    plaintext := ← r.field "plaintext" Value.flag? false
    description := ← r.field "description" Value.text? ""
    label := ← r.field "label" Value.text? "" }

def ofRecord? (r : Record) : Option VariableSource := do
  return {
    word := ← r.field "kind" VariableWord.ofValue? .simple
    value := (← r.optional "value" anyText?).getD ""
    constraints := ← constraints? r
    choices := ← r.field "choices" (Value.list? anyText?) []
    masked := ← r.field "secret" Value.flag? false
    script := ← ScriptSource.ofRecord? r
    scriptType := ← r.field "script_type" ScriptType.ofValue? .sh
    url := ← r.optional "url" Value.text?
    method := ← r.optional "method" Value.text?
    responsePath := ← r.optional "response_path" Value.text? }

/-- A variable in full, or a scalar as its value; any other collection is malformed. -/
def ofValue (v : Value) : Option VariableSource :=
  match (v.record? names).bind ofRecord? with
  | some s => some s
  | none =>
    match v with
    | .mapping _ | .sequence _ => none
    | v => some { value := v.text }

end VariableSource

/-! ### Steps -/

namespace TaskWord

def name : TaskWord → String
  | exec => "exec"
  | setVariable => "set_variable"
  | http => "http"
  | delay => "delay"
  | scaleOut => "scale_out"
  | scaleIn => "scale_in"
  | input => "input"

def all : List TaskWord := [exec, setVariable, http, delay, scaleOut, scaleIn, input]

def ofName? (s : String) : Option TaskWord := all.find? fun w => w.name == s

end TaskWord

namespace TaskSource

def names : List String :=
  ["name", "description", "script", "script_file", "script_type", "target", "retries",
    "timeout_secs", "variables", "method", "url", "body", "headers", "status_codes",
    "response_paths", "seconds", "count", "inputs"]

def ofValue? (v : Value) : Option TaskSource := do
  let r ← v.record? names
  return {
    name := ← r.required "name" Value.text?
    description := ← r.field "description" Value.text? ""
    script := ← ScriptSource.ofRecord? r
    scriptType := ← r.optional "script_type" ScriptType.ofValue?
    target := ← r.optional "target" Value.text?
    retries := ← r.field "retries" (Value.natural? (Nat.pow 2 32)) 0
    timeoutSecs := ← r.field "timeout_secs" (Value.natural? (Nat.pow 2 32)) 0
    vars := ← r.field "variables" (Value.list? Value.text?) []
    method := ← r.optional "method" Value.text?
    url := ← r.optional "url" Value.text?
    body := ← r.optional "body" Value.text?
    headers := ← r.field "headers" (Value.map? Value.text?) ∅
    statusCodes := ← r.field "status_codes" (Value.list? (Value.natural? (Nat.pow 2 16))) []
    responsePaths := ← r.field "response_paths" (Value.map? Value.text?) ∅
    seconds := ← r.optional "seconds" (Value.natural? (Nat.pow 2 64))
    count := ← r.optional "count" anyText?
    inputs := ← r.field "inputs" (Value.list? Value.text?) [] }

end TaskSource

namespace DecisionSource

def names : List String :=
  ["name", "description", "script", "script_file", "script_type", "target", "success", "failure"]

def ofRecord? (r : Record) : Option DecisionSource := do
  return {
    name := ← r.required "name" Value.text?
    description := ← r.field "description" Value.text? ""
    script := ← ScriptSource.ofRecord? r
    scriptType := ← r.field "script_type" ScriptType.ofValue? .sh
    target := ← r.optional "target" Value.text? }

end DecisionSource

namespace LoopSource

def names : List String := ["name", "description", "iterations", "loop_variable", "body"]

def ofRecord? (r : Record) : Option LoopSource := do
  return {
    name := ← r.required "name" Value.text?
    description := ← r.field "description" Value.text? ""
    iterations := ← r.required "iterations" anyText?
    loopVariable := ← r.optional "loop_variable" Value.text? }

end LoopSource

namespace StepSource

def names : List String :=
  ["exec", "set_variable", "http", "delay", "scale_out", "scale_in", "input", "parallel",
    "serial", "decision", "loop"]

/-- A step that nests at most `depth` deep. -/
def atDepth? : Nat → Value → Option StepSource
  | 0, _ => none
  | depth + 1, v => do
    let (word, v) ← v.variantOf? names
    match word with
    | "parallel" => return .parallel (← v.list? (atDepth? depth))
    | "serial" => return .serial (← v.list? (atDepth? depth))
    | "decision" =>
      let r ← v.record? DecisionSource.names
      let success ← r.field "success" (Value.list? (atDepth? depth)) []
      let failure ← r.field "failure" (Value.list? (atDepth? depth)) []
      return .decision (← DecisionSource.ofRecord? r) success failure
    | "loop" =>
      let r ← v.record? LoopSource.names
      return .loop (← LoopSource.ofRecord? r) (← r.field "body" (Value.list? (atDepth? depth)) [])
    | word => return .task (← TaskWord.ofName? word) (← TaskSource.ofValue? v)

/-- Values nest no deeper than nodes do. -/
def ofValue? (v : Value) : Option StepSource := atDepth? Yaml.Node.maxDepth v

end StepSource

/-! ### Entities -/

namespace ActionSource

def names : List String := ["description", "critical", "variables", "steps"]

def ofRecord? (r : Record) : Option ActionSource := do
  return {
    description := ← r.field "description" Value.text? ""
    critical := ← r.field "critical" Value.flag? false
    vars := ← r.field "variables" (Value.map? fun v => some (VariableSource.ofValue v)) ∅
    steps := ← r.field "steps" (Value.list? StepSource.ofValue?) [] }

/-- A list of steps, or an action in full. -/
def ofValue? (v : Value) : Option ActionSource :=
  match v.list? StepSource.ofValue? with
  | some steps => some { steps }
  | none => (v.record? names).bind ofRecord?

end ActionSource

def targets? : Value → Option (List String)
  | .str s => some [s]
  | v => v.list? Value.text?

def closed? {α : Type} (read : Value → Option α) (v : Value) : Option α :=
  if v.untagged then read v else none

namespace EntitySource

def names : List String :=
  ["extends", "name", "description", "variables", "actions", "refs", "attrs", "editables",
    "create_spec_file", "secret_file"]

def ofValue? (v : Value) : Option EntitySource := do
  let r ← v.openRecord? names
  return {
    bases := ← r.field "extends" Value.openTexts? []
    name := ← r.optional "name" Value.openText?
    description := ← r.field "description" Value.openText? ""
    vars :=
      ← r.field "variables" (Value.openMap? (closed? fun v => some (VariableSource.ofValue v))) ∅
    actions := ← r.field "actions" (Value.openMap? (closed? ActionSource.ofValue?)) ∅
    refs := ← r.field "refs" (Value.openMap? (closed? targets?)) ∅
    attrs := ← r.field "attrs" (Value.openMap? Value.json?) ∅
    editables := ← r.field "editables" Value.openTexts? []
    createSpecFile := ← r.optional "create_spec_file" Value.openText?
    secretFile := ← r.optional "secret_file" Value.openText? }

end EntitySource

namespace ModuleSource

def sections : List (String × EntityKind) :=
  [("mixins", .mixin), ("credentials", .credential), ("services", .service),
    ("packages", .package), ("substrates", .substrate), ("deployments", .deployment),
    ("profiles", .profile), ("endpoints", .endpoint)]

def names : List String :=
  ["version", "kind", "name", "description", "imports"] ++ sections.map (·.1) ++ ["root"]

def section? (r : Record) (name : String) (kind : EntityKind) :
    Option (List (EntityKind × String × EntitySource)) := do
  let m ← r.field name (Value.openMap? EntitySource.ofValue?) ∅
  return m.entries.map fun (key, e) => (kind, key, e)

def ofValue? (v : Value) : Option ModuleSource := do
  let r ← v.openRecord? names
  return {
    version := ← r.field "version" Value.openText? moduleVersion
    kind := ← r.optional "kind" fun v => v.openWord?.bind EntityKind.ofName?
    name := ← r.optional "name" Value.openText?
    description := ← r.field "description" Value.openText? ""
    imports := ← r.field "imports" Value.openTexts? []
    declarations := (← sections.mapM fun (name, kind) => section? r name kind).flatten
    root := ← r.optional "root" EntitySource.ofValue? }

/-! ### Parameters -/

/-- Takes the entry of a key; the last entry comes to its place. -/
def takeField? (key : String) (es : List (Value × Value)) :
    Option (Value × List (Value × Value)) :=
  let isKey := fun (e : Value × Value) => e.1.same (.str key)
  match es.find? isKey with
  | none => none
  | some (_, v) =>
    let before := es.takeWhile (!isKey ·)
    let after := (es.dropWhile (!isKey ·)).tail
    match after.getLast? with
    | some e => some (v, before ++ e :: after.dropLast)
    | none => some (v, before)

def takeParams? : Value → Option (Value × Value)
  | .mapping es => (takeField? "params" es).map fun (ps, es) => (ps, .mapping es)
  | .tagged tag v => (takeParams? v).map fun (ps, v) => (ps, .tagged tag v)
  | _ => none

/-- Reads a module. Parameters that it inherits go over its own, and it hands all of them on. -/
def read (text : String) (inherited : Params) : Except ParseFault (ModuleSource × Params) := do
  let whole ← (Value.read? text).elim (.error .badFormat) .ok
  let (ps, body) ←
    match takeParams? whole with
    | none => .ok (∅, whole)
    | some (ps, body) =>
      match ps.openMap? some with
      | some ps => .ok (ps, body)
      | none => .error .badParams
  let ps := ps.insertAll inherited
  let body ← (Params.fillValue ps body).mapError .unknownParam
  let source ← (ofValue? body).elim (.error .badFormat) .ok
  if source.version == moduleVersion then return (source, ps) else .error (.version source.version)

end ModuleSource

end Blueprint
