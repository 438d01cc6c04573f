import Blueprint.Regex.Meaning
import Blueprint.Text.Identifier
import Blueprint.Variable.Basic

/-!
# Declaring variables

`Variable.declare` checks every constraint once. A text with a macro is checked when the server has
expanded it, so regex and type pass over it here.
-/

namespace Blueprint.Variable

abbrev Check := Except ValidationFault Unit

def require (ok : Bool) (fault : ValidationFault) : Check :=
  if ok then .ok () else .error fault

def checkType (t : VarType) (text : String) : Check :=
  if Macro.hasMacro text then .ok ()
  else
    match t.coerce text with
    | .ok _ => .ok ()
    | .error m => .error (.mismatch m)

def checkText (pattern : Option Regex) (t : VarType) (text : String) : Check := do
  require (Macro.hasMacro text || pattern.all (·.test text)) (.regexMismatch text)
  checkType t text

def candidates (value : String) (default : Option String) : List String :=
  (value :: default.toList).filter (!·.isEmpty)

def compile? : Option String → Except ValidationFault (Option Regex)
  | none => .ok none
  | some pattern =>
    match Regex.wholeText? pattern with
    | some r => .ok (some r)
    | none => .error .badRegex

def checkKind (value : String) (c : Constraints) : VarKind → Check
  | .simple => .ok ()
  | .secret => require (c.plaintext || (value.isEmpty && c.default.isNone)) .plaintextSecret
  | .options choices => do
    require (!choices.isEmpty) .noChoices
    choices.forM (checkType c.type)
    let text := effective value c.default
    require (text.isEmpty || choices.contains text) (.notAChoice text choices)
  | .computed (.script s) _ => require (!Text.blankText s.text) .emptyScript
  | .computed (.http _ url _) _ => require (!Text.blankText url) .emptyUrl

def check (name value : String) (kind : VarKind) (c : Constraints) : Check := do
  require (Text.isIdentifier name) .badVariableName
  let pattern ← compile? c.regex
  (candidates value c.default).forM (checkText pattern c.type)
  checkKind value c kind
  require (!c.isMandatory || !(effective value c.default).isEmpty || kind.isComputed || c.isRuntime)
    .noValue

def subject (name : String) : String := "variable '" ++ name ++ "'"

def declare (name value : String) (kind : VarKind) (c : Constraints) :
    Except CompileError Variable :=
  match check name value kind c with
  | .ok () => .ok
    { name, value, kind, type := c.type, isRuntime := c.isRuntime, isMandatory := c.isMandatory
      isHidden := c.isHidden, regex := c.regex, default := c.default
      description := c.description, label := c.label }
  | .error fault => .error (.validation (subject name) fault)

end Blueprint.Variable
