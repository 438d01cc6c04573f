import Blueprint.Json.Value
import Blueprint.Yaml.Record

/-!
# YAML as JSON

JSON has no tags and no keys but texts, and what is no finite number becomes null. A node takes
the text of any scalar for a key; a value takes texts only.
-/

namespace Blueprint.Yaml

def jsonNumber (x : Double) : Json := if x.isFinite then .float x else .null

def Scalar.json : Scalar → Json
  | .null => .null
  | .bool b => .bool b
  | .int i => .int i
  | .float x => jsonNumber x
  | .text s => .str s

namespace Node

def keyText? : Node → Option String
  | .scalar _ text _ => some text
  | _ => none

mutual

def json? : Node → Option Json
  | .scalar tag text plain =>
    if (Value.variant? tag).isSome then none else (Scalar.resolve? tag text plain).map Scalar.json
  | .sequence tag items =>
    if (Value.variant? tag).isSome then none else (jsonItems? items).map .arr
  | .mapping tag entries =>
    if (Value.variant? tag).isSome then none else (jsonFields? [] entries).map .obj

def jsonItems? : List Node → Option (List Json)
  | [] => some []
  | n :: ns => do return (← json? n) :: (← jsonItems? ns)

def jsonFields? (fields : List (String × Json)) :
    List (Node × Node) → Option (List (String × Json))
  | [] => some fields
  | (k, v) :: es => do jsonFields? (Entries.put (← k.keyText?) (← json? v) fields) es

end

/-- A mapping from texts to values; nothing stands for an empty one. -/
def table? : Node → Option (OrderedMap Value)
  | .mapping _ entries => do
    return .ofList (← entries.mapM fun (k, v) => do return (← k.keyText?, ← Value.ofNode? v))
  | .scalar _ "" true => some ∅
  | _ => none

end Node

namespace Value

mutual

def json? : Value → Option Json
  | .null => some .null
  | .bool b => some (.bool b)
  | .int i => some (.int i)
  | .float x => some (jsonNumber x)
  | .str s => some (.str s)
  | .sequence items => (jsonItems? items).map .arr
  | .mapping entries => (jsonFields? [] entries).map .obj
  | .tagged .. => none

def jsonItems? : List Value → Option (List Json)
  | [] => some []
  | v :: vs => do return (← json? v) :: (← jsonItems? vs)

def jsonFields? (fields : List (String × Json)) :
    List (Value × Value) → Option (List (String × Json))
  | [] => some fields
  | (k, v) :: es => do jsonFields? (Entries.put (← k.openText?) (← json? v) fields) es

end

end Value

end Blueprint.Yaml
