import Blueprint.Kind.Basic
import Blueprint.Macro.Text
import Blueprint.Task.Scope
import Blueprint.Variable.Coerce

/-!
# Errors

What can go wrong, by cause. `CompileError.message` is the one place that words an error. What lies
in the syntax of a file or in a pattern is not worded any further.
-/

namespace Blueprint

/-- Stands for a reason that the reader of a foreign format would give. -/
def externalReason : String := "<external>"

/-- A declared value that breaks a rule. -/
inductive ValidationFault where
  -- variables
  | badVariableName
  | badRegex
  | regexMismatch (text : String)
  | mismatch (m : VarType.Mismatch)
  | plaintextSecret
  | noChoices
  | notAChoice (text : String) (choices : List String)
  | emptyScript
  | emptyUrl
  | noValue
  -- entities
  | emptyName
  | variableTwice (name : String)
  | badActionName (name : String)
  | actionTwice (name : String)
  -- schemas
  | unknownSlot (slot : String)
  | singleSlot (slot : String) (target : EntityKind)
  | slotTarget (slot : String) (target : EntityKind) (given : EntityKey)
  | unknownAttribute (key : String)
  | editableAttribute (path : String)
  | missingAction (name : String)
  | actionRefused (kind : EntityKind) (name : String)
  | actionKind (name : String) (expected : ActionKind)
  | actionVariable (name : String)
  -- attributes
  | notOneOf (key : String) (allowed : List String)
  | replicaBounds (min max : Int)
  | replicaDefault (default min max : Int)
  | addressList
  | unlistedEnvironment (name : String)
  | noEvent
  | noApprovers
  | badPriority
  | nameList (key : String)
  -- graphs
  | notRootKind
  | rootTwice (root : EntityKey)
  | noRoot
  | badMacro (fault : Macro.Fault)
  -- modules
  | unknownKind (name : String)
  | bareReference (text : String)
  | scriptTwice
  | noScript
  | fileOwner (owner : EntityKind) (key : String)
  | inlineAndFile (key : String)
  | malformedVariable
  | scriptAndUrl
  | missingField (name : String)
  | inheritanceCycle (members : List EntityKey)
  deriving DecidableEq, Repr, Inhabited

def ValidationFault.message : ValidationFault → String
  | badVariableName => "name is not a valid identifier"
  | badRegex => "invalid regex: " ++ externalReason
  | regexMismatch text => "'" ++ text ++ "' does not match regex"
  | mismatch m => m.message
  | plaintextSecret => "secret declared with a plaintext value; opt in explicitly"
  | noChoices => "options list is empty"
  | notAChoice text choices => "'" ++ text ++ "' is not one of: " ++ ", ".intercalate choices
  | emptyScript => "computed script is empty"
  | emptyUrl => "computed HTTP url is empty"
  | noValue => "mandatory variable has no value and is not runtime-editable"
  | emptyName => "name is empty"
  | variableTwice name => "variable '" ++ name ++ "' declared twice"
  | badActionName name => "action name '" ++ name ++ "' is not a valid identifier"
  | actionTwice name => "action '" ++ name ++ "' declared twice"
  | unknownSlot slot => "unknown reference slot '" ++ slot ++ "'"
  | singleSlot slot target => "slot '" ++ slot ++ "' takes a single " ++ target.name
  | slotTarget slot target given =>
    "slot '" ++ slot ++ "' expects a " ++ target.name ++ ", got " ++ given.text
  | unknownAttribute key => "unknown attribute '" ++ key ++ "'"
  | editableAttribute path => "editable '" ++ path ++ "' names no attribute"
  | missingAction name => "missing required action '" ++ name ++ "'"
  | actionRefused kind name => kind.name ++ "s do not accept action '" ++ name ++ "'"
  | actionKind name expected =>
    "action '" ++ name ++ "' must be a " ++ expected.name ++ " action"
  | actionVariable name => "bad variable '" ++ name ++ "'"
  | notOneOf key allowed => "'" ++ key ++ "' must be one of: " ++ ", ".intercalate allowed
  | replicaBounds min max =>
    "min_replicas " ++ toString min ++ " exceeds max_replicas " ++ toString max
  | replicaDefault default min max =>
    "default_replicas " ++ toString default ++ " outside " ++ toString min ++ "..=" ++ toString max
  | addressList => "'addresses' must be a list"
  | unlistedEnvironment name => "default environment '" ++ name ++ "' is not in 'environments'"
  | noEvent => "policy needs an 'event'"
  | noApprovers => "policy needs at least one approver set"
  | badPriority => "'priority' must be an integer"
  | nameList key => "'" ++ key ++ "' must list names"
  | notRootKind => "cannot be the root of a document"
  | rootTwice root => "root already declared as " ++ root.text
  | noRoot => "no root entity declared"
  | badMacro fault => fault.message
  | unknownKind name => "unknown entity kind '" ++ name ++ "'"
  | bareReference text => "reference '" ++ text ++ "' needs the form kind/Name"
  | scriptTwice => "give either 'script' or 'script_file'"
  | noScript => "missing 'script'"
  | fileOwner owner key => "only a " ++ owner.name ++ " takes a '" ++ key ++ "' file"
  | inlineAndFile key => "'" ++ key ++ "' is given both inline and as a file"
  | malformedVariable => "malformed variable declaration"
  | scriptAndUrl => "a computed variable takes a script or a url, not both"
  | missingField name => "missing '" ++ name ++ "'"
  | inheritanceCycle members =>
    "inheritance cycle involving: " ++ ", ".intercalate (members.map EntityKey.text)

/-- An action body that is not well formed. -/
inductive TaskFault where
  | emptyName
  | duplicateName (name : String)
  | stepInDecision (decision : String)
  | branchOutsideDecision
  | branchTwice (b : Branch)
  | noIterations (loop : String)
  | foreignToken (kind : ScopeKind)
  | nothingOpen (kind : ScopeKind)
  | mismatchedClose (innermost given : ScopeKind)
  | emptyStack
  | closeBody
  | branchClosedOutside
  | missingBranch (decision : String) (b : Branch)
  | emptyLoop (loop : String)
  | neverClosed (kind : ScopeKind)
  | noDefaultTarget (task slot : String)
  | needsTarget (task : String)
  | wrongTarget (task : String) (expected actual : EntityKind)
  | wrongReference (task : String) (expected : EntityKind) (given : EntityKey)
  | reservedName (name : String)
  deriving DecidableEq, Repr, Inhabited

def TaskFault.message : TaskFault → String
  | emptyName => "task name is empty"
  | duplicateName name => "duplicate task name '" ++ name ++ "'"
  | stepInDecision decision =>
    "steps inside decision '" ++ decision ++ "' must go in its success or failure branch"
  | branchOutsideDecision => "branch opened outside a decision"
  | branchTwice b => b.name ++ " branch declared twice"
  | noIterations loop => "loop '" ++ loop ++ "' has no iteration count"
  | foreignToken kind => kind.text ++ " scope token belongs to another action"
  | nothingOpen kind => kind.text ++ " closed but never opened"
  | mismatchedClose innermost given =>
    "mismatched close: innermost open scope is " ++ innermost.text ++ ", got " ++ given.text
  | emptyStack => "scope stack is empty"
  | closeBody => "cannot close the action body"
  | branchClosedOutside => "branch closed outside a decision"
  | missingBranch decision b =>
    "decision '" ++ decision ++ "' is missing its " ++ b.name ++ " branch"
  | emptyLoop loop => "loop '" ++ loop ++ "' has an empty body"
  | neverClosed kind => kind.text ++ " scope opened but never closed"
  | noDefaultTarget task slot =>
    "task '" ++ task ++ "' has no target and '" ++ slot ++ "' is empty"
  | needsTarget task => "task '" ++ task ++ "' needs an explicit target"
  | wrongTarget task expected actual =>
    "task '" ++ task ++ "' must target a " ++ expected.name ++ ", not a " ++ actual.name
  | wrongReference task expected given =>
    "task '" ++ task ++ "' must target a " ++ expected.name ++ ", not " ++ given.text
  | reservedName name => "task name '" ++ name ++ "' is reserved for the main task"

/-- Bases that cannot be composed. -/
inductive MergeFault where
  | foreignKind (base : EntityKey)
  | twoConcrete (first second : String) (kind : EntityKind)
  | actionTwice (name : String)
  | slotTwice (slot : String)
  deriving DecidableEq, Repr, Inhabited

def MergeFault.message : MergeFault → String
  | foreignKind base => "cannot extend " ++ base.text
  | twoConcrete first second kind =>
    "bases '" ++ first ++ "' and '" ++ second ++ "' are both " ++ kind.name ++
      "s; their system actions would collide"
  | actionTwice name => "action '" ++ name ++ "' is defined by more than one base"
  | slotTwice slot => "reference slot '" ++ slot ++ "' is defined by more than one base"

/-- A resolved graph that has no document. -/
inductive DocumentFault where
  | duplicateName (kind : EntityKind) (name : String)
  | neverResolved (key : EntityKey)
  | notInDocument (kind : EntityKind)
  | notDocumentRoot (kind : EntityKind)
  | missingEditable (path : String)
  deriving DecidableEq, Repr, Inhabited

def DocumentFault.message : DocumentFault → String
  | duplicateName kind name =>
    "duplicate " ++ kind.name ++ " name '" ++ name ++ "' after flattening"
  | neverResolved key => key.text ++ " was never resolved"
  | notInDocument kind => "a " ++ kind.name ++ " cannot appear inside a document"
  | notDocumentRoot kind => "a " ++ kind.name ++ " cannot be the document root"
  | missingEditable path => "editable path '" ++ path ++ "' does not exist in the payload"

/-- A file that cannot be read or written. -/
inductive ReadFault where
  | noSuchFile
  | notFound
  | notDirectory
  | isDirectory
  | nameTooLong
  | zeroByte
  | notText
  /-- Any other answer of the system. -/
  | system (code : Nat) (reason : String)
  deriving DecidableEq, Repr, Inhabited

def ReadFault.message : ReadFault → String
  | noSuchFile => "no such file"
  | notFound => "No such file or directory (os error 2)"
  | notDirectory => "Not a directory (os error 20)"
  | isDirectory => "Is a directory (os error 21)"
  | nameTooLong => "File name too long (os error 36)"
  | zeroByte => "file name contained an unexpected NUL byte"
  | notText => "stream did not contain valid UTF-8"
  | system code reason => reason ++ " (os error " ++ toString code ++ ")"

/-- A file that is no module or no context. -/
inductive ParseFault where
  | badFormat
  | badParams
  | version (given : String)
  | noKind
  | noName
  | importedRoot
  | unknownParam (key : String)
  deriving DecidableEq, Repr, Inhabited

def moduleVersion : String := "1.0"

def ParseFault.message : ParseFault → String
  | badFormat => externalReason
  | badParams => "params: " ++ externalReason
  | version given => "version must be \"" ++ moduleVersion ++ "\", got \"" ++ given ++ "\""
  | noKind => "the root module needs a 'kind'"
  | noName => "the root module needs a 'name'"
  | importedRoot => "an imported module cannot declare a root"
  | unknownParam key => "unknown param: " ++ key

/-- The stages an entity goes through. -/
inductive Stage where
  | declared | variablesBound | referencesUnresolved | referencesResolved | editablesExtracted
  | serialized
  deriving DecidableEq, Repr, Inhabited

namespace Stage

def all : List Stage :=
  [declared, variablesBound, referencesUnresolved, referencesResolved, editablesExtracted,
    serialized]

def name : Stage → String
  | declared => "declared"
  | variablesBound => "variables-bound"
  | referencesUnresolved => "references-unresolved"
  | referencesResolved => "references-resolved"
  | editablesExtracted => "editables-extracted"
  | serialized => "serialized"

def ofName? (s : String) : Option Stage := all.find? fun t => t.name == s

def next? : Stage → Option Stage
  | declared => some variablesBound
  | variablesBound => some referencesUnresolved
  | referencesUnresolved => some referencesResolved
  | referencesResolved => some editablesExtracted
  | editablesExtracted => some serialized
  | serialized => none

end Stage

inductive CompileError where
  | validation (subject : String) (fault : ValidationFault)
  /-- A reference that nothing matches; `kind` and `name` are what it asks for. -/
  | unresolved (source kind name : String)
  /-- Several matches at the least depth. -/
  | ambiguous (source kind name : String) (candidates depth : Nat)
  | structural (action : String) (fault : TaskFault)
  | merge (entity : EntityKey) (fault : MergeFault)
  | document (fault : DocumentFault)
  | lifecycle (entity : EntityKey) (source target : Stage)
  | unreadable (path : String) (fault : ReadFault)
  | parse (source : String) (fault : ParseFault)
  /-- An id outside the graph. -/
  | missingEntity (id : EntityId)
  deriving DecidableEq, Repr, Inhabited

def CompileError.message : CompileError → String
  | validation subject fault => "validation error: " ++ subject ++ ": " ++ fault.message
  | unresolved source kind name =>
    "unresolved reference: " ++ source ++ " -> " ++ kind ++ " '" ++ name ++ "'"
  | ambiguous source kind name candidates depth =>
    "ambiguous reference: " ++ source ++ " -> " ++ kind ++ " '" ++ name ++ "' (" ++
      toString candidates ++ " candidates at " ++ toString depth ++ " hop(s))"
  | structural action fault => "task structure error in '" ++ action ++ "': " ++ fault.message
  | merge entity fault => "merge conflict composing '" ++ entity.text ++ "': " ++ fault.message
  | document fault => "serialization error: " ++ fault.message
  | lifecycle entity source target =>
    "lifecycle error: " ++ entity.text ++ " cannot move from " ++ source.name ++ " to " ++
      target.name
  | unreadable path fault => "cannot read " ++ path ++ ": " ++ fault.message
  | parse source fault => "parse error in " ++ source ++ ": " ++ fault.message
  | missingEntity id => "no entity " ++ toString id

end Blueprint
