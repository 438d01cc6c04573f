import Blueprint.Error

/-!
# Variables

Typed values with their constraints. A variable keeps its value as it was written; `wireValue` is
what the payload carries.
-/

namespace Blueprint

/-- Where a computed variable gets its value from. -/
inductive ComputedSource where
  | script (s : Script)
  | http (method url responsePath : String)
  deriving DecidableEq, Repr, Inhabited

inductive VarKind where
  | simple
  | secret
  | options (choices : List String)
  | computed (source : ComputedSource) (secret : Bool)
  deriving DecidableEq, Repr, Inhabited

/-- What a declaration says besides name, value and kind. -/
structure Constraints where
  type : VarType := .string
  isRuntime : Bool := false
  isMandatory : Bool := false
  isHidden : Bool := false
  regex : Option String := none
  default : Option String := none
  /-- A secret may have a literal value. -/
  plaintext : Bool := false
  description : String := ""
  label : String := ""
  deriving DecidableEq, Repr, Inhabited

structure Variable where
  name : String
  value : String
  kind : VarKind
  type : VarType
  isRuntime : Bool
  isMandatory : Bool
  isHidden : Bool
  regex : Option String
  default : Option String
  description : String
  label : String
  deriving DecidableEq, Repr, Inhabited

/-- The value, or the default where it is empty. -/
def effective (value : String) (default : Option String) : String :=
  if value.isEmpty then default.getD "" else value

/-- A text in its wire form: empty texts, macros and texts of another type stay as they are. -/
def VarType.wireText (t : VarType) (text : String) : String :=
  if Macro.hasMacro text then text else (t.coerce? text).getD text

namespace VarKind

def isSecret : VarKind → Bool
  | secret => true
  | computed _ s => s
  | _ => false

def isComputed : VarKind → Bool
  | computed _ _ => true
  | _ => false

end VarKind

namespace Variable

/-- The value at launch when nothing is overridden. -/
def effectiveValue (v : Variable) : String := effective v.value v.default

def wireValue (v : Variable) : String :=
  if v.effectiveValue.isEmpty then "" else v.type.wireText v.effectiveValue

def isSecret (v : Variable) : Bool := v.kind.isSecret

def texts (v : Variable) : List String :=
  v.value :: v.default.toList ++
    match v.kind with
    | .options choices => choices
    | .computed (.script s) _ => [s.text]
    | .computed (.http _ url _) _ => [url]
    | .simple | .secret => []

end Variable

end Blueprint
