import Blueprint.Json.Value
import Blueprint.Uuid
import Blueprint.Variable.Basic

/-!
# Variables in the payload

The wire object of a variable.
-/

namespace Blueprint.Variable

def wireType (v : Variable) : String :=
  match v.kind with
  | .simple | .options _ => "LOCAL"
  | .secret => "SECRET"
  | .computed (.script _) false => "EXEC_LOCAL"
  | .computed (.script _) true => "EXEC_SECRET"
  | .computed (.http _ _ _) false => "HTTP_LOCAL"
  | .computed (.http _ _ _) true => "HTTP_SECRET"

/-- The expectation that a request answers with one of `codes`. -/
def expected (codes : List Nat) : Json :=
  .arr (codes.map fun code => .obj [("status", .str "SUCCESS"), ("code", .ofNat code)])

def options? (v : Variable) : Option Json :=
  match v.kind with
  | .simple | .secret => none
  | .options choices =>
    some (.obj [("type", .str "PREDEFINED"), ("choices", .ofStrings (choices.map v.type.wireText))])
  | .computed (.script s) _ =>
    some (.obj [("type", .str "EXEC"),
      ("attrs", .obj [("script_type", .str s.type.wire), ("script", .str s.text)])])
  | .computed (.http method url responsePath) _ =>
    some (.obj [("type", .str "HTTP"),
      ("attrs", .obj [("method", .str method), ("url", .str url), ("request_body", .str ""),
        ("headers", .arr []), ("expected_response_params", expected [200]),
        ("response_paths", .obj [(v.name, .str responsePath)])])])

def payload (v : Variable) (id : Uuid) : Json :=
  .obj <|
    [("name", .str v.name), ("description", .str v.description), ("label", .str v.label),
      ("uuid", .str id.text), ("type", .str v.wireType), ("val_type", .str v.type.wire),
      ("data_type", .str "BASE"), ("value", .str v.wireValue),
      ("attrs", .obj [("is_secret_modified", .bool (v.isSecret && !v.effectiveValue.isEmpty))]),
      ("editables", .obj [("value", .bool v.isRuntime)]), ("is_hidden", .bool v.isHidden),
      ("is_mandatory", .bool v.isMandatory)] ++
    v.options?.toList.map (fun o => ("options", o)) ++
    v.regex.toList.map fun r =>
      ("regex", .obj [("value", .str r), ("should_validate", .bool true)])

end Blueprint.Variable
