import Blueprint.CommandLine.Arguments
import Blueprint.CommandLine.Fetch
import Blueprint.CommandLine.Glob
import Blueprint.Compile
import Blueprint.Context.Reader

/-!
# Commands

`run` does what arguments ask for. What a command writes to its two outputs and the code it ends
with are its report.
-/

namespace Blueprint.CommandLine

structure Report where
  exit : Nat
  out : String
  err : String
  deriving DecidableEq, Repr, Inhabited

/-- Why a command has failed. -/
inductive CommandFault where
  | compile (e : CompileError)
  | alreadyExists (p : Path)
  | unwritable (p : Path) (fault : ReadFault)
  | badPattern (pattern : String) (fault : GlobFault)
  | noMatch (pattern : String)
  | failures (failed total : Nat)
  deriving DecidableEq, Repr, Inhabited

def CommandFault.message : CommandFault → String
  | compile e => e.message
  | alreadyExists p => p.text ++ " already exists"
  | unwritable p fault => "cannot write " ++ p.text ++ ": " ++ fault.message
  | badPattern pattern fault => "bad pattern '" ++ pattern ++ "': " ++ fault.message
  | noMatch pattern => "no module matches '" ++ pattern ++ "'"
  | failures failed total => toString failed ++ " of " ++ toString total ++ " modules failed"

/-- The two outputs so far. -/
structure Output where
  out : String := ""
  err : String := ""
  deriving Inhabited

abbrev Run (m : Type → Type) := ExceptT CommandFault (StateT Output m)

section

variable {m : Type → Type} [Monad m] [FileSystem m]

def say (line : String) : Run m Unit := modify fun o => { o with out := o.out ++ line ++ "\n" }

def warn (line : String) : Run m Unit := modify fun o => { o with err := o.err ++ line ++ "\n" }

def ask {α : Type} (a : m α) : Run m α := ExceptT.lift (StateT.lift a)

def compiled {α : Type} (r : Except CompileError α) : Run m α :=
  match r with
  | .ok a => return a
  | .error e => throw (.compile e)

def writeFile (p : Path) (text : String) : Run m Unit := do
  match ← ask (write p text) with
  | .ok () => return
  | .error fault => throw (.unwritable p fault)

def readFile (p : Path) : Run m String := do
  compiled ((← ask (read p)).mapError (.unreadable p.text))

/-! ### Compiling files -/

def contextFile : String := "bpforge.toml"

def readContext (p : Path) : Run m CompileContext := do
  compiled (CompileContext.read p.text (← readFile p))

/-- The context of a module: the one that is given, or the one beside it, or the standard one. -/
def contextFor (file : Path) (config : Option Path) : Run m CompileContext := do
  match config with
  | some p => readContext p
  | none =>
    match file.parent?.map (·.join ⟨contextFile⟩) with
    | none => return {}
    | some p => if (← ask (kind? p)) = some .file then readContext p else return {}

/-- A module compiled; warnings go out before anything is done with it. -/
def compileFile (file : Path) (config : Option Path) : Run m Compiled := do
  let context ← contextFor file config
  let files ← ask (fetch file)
  let c ← compiled (Blueprint.compile (← compiled (load files file)) context)
  c.warnings.forM fun w => warn ("warning: " ++ w.text)
  return c

/-! ### Commands -/

def moduleFile : String := "bpforge.yaml"

def moduleLines : List String :=
  ["version: \"1.0\"",
    "kind: blueprint",
    "name: my-app",
    "description: Single-tier web application",
    "params:",
    "  env: DEV",
    "services:",
    "  Web:",
    "    variables:",
    "      ENV: \"\x7b\x7bparams.env\x7d\x7d\"",
    "      PORT: \x7bvalue: 8080, type: int, runtime: true\x7d",
    "    actions:",
    "      restart:",
    "        - exec: \x7bname: bounce, script: \"systemctl restart web\"\x7d",
    "packages:",
    "  WebPkg:",
    "    refs: \x7bservices: Web\x7d",
    "    actions:",
    "      install:",
    "        - exec: \x7bname: install, script: \"echo installing on port @@\x7bPORT\x7d@@\"\x7d",
    "substrates:",
    "  VM: \x7b\x7d",
    "deployments:",
    "  WebDep:",
    "    refs: \x7bpackages: [WebPkg], substrate: VM\x7d",
    "profiles:",
    "  Default:",
    "    refs: \x7bdeployments: WebDep\x7d",
    "root:",
    "  refs: \x7bprofiles: [Default]\x7d"]

def contextLines : List String :=
  ["api_version = \"3.0\"",
    "strict_macros = false",
    "",
    "[lookups.project]",
    "[lookups.account]",
    "[lookups.environment]",
    "[lookups.user]"]

def unlines (ls : List String) : String := String.join (ls.map (· ++ "\n"))

/-- Writes a module and a context to begin with, where there is neither. -/
def runInit (path : Path) : Run m Unit := do
  let modulePath := path.join ⟨moduleFile⟩
  let contextPath := path.join ⟨contextFile⟩
  for p in [modulePath, contextPath] do
    if (← ask (kind? p)).isSome then throw (.alreadyExists p)
  writeFile modulePath (unlines moduleLines)
  writeFile contextPath (unlines contextLines)
  say ("Initialized bpforge project at " ++ path.text)
  say ("  Created: " ++ modulePath.text)
  say ("  Created: " ++ contextPath.text)

def matching (pattern : String) : Run m (List Path) := do
  match Glob.read pattern with
  | .error fault => throw (.badPattern pattern fault)
  | .ok p =>
    let found ← ask (Glob.search p)
    if found.isEmpty then throw (.noMatch pattern) else return found

/-- Compiles one of several modules; tells whether it failed. -/
def validateFile (file : Path) : Run m Bool := do
  try
    let c ← compileFile file none
    say ("OK: " ++ file.text ++ " (" ++ toString c.resolved.reachable.length ++ " entities, " ++
      toString c.editables.fields.length ++ " editables)")
    return false
  catch e =>
    warn ("FAIL: " ++ file.text ++ ": " ++ e.message)
    return true

def runValidate (patterns : List String) : Run m Unit := do
  let files := (← patterns.mapM matching).flatten
  let failed := (← files.mapM validateFile).count true
  if 0 < failed then throw (.failures failed files.length)

def runCommand : Command → Run m Unit
  | .init path => runInit path
  | .validate patterns => runValidate patterns
  | .compile file config output pretty => do
    let c ← compileFile file config
    let text := if pretty then c.document.pretty else c.document.compact
    match output with
    | some p =>
      writeFile p (text ++ "\n")
      say ("Wrote " ++ p.text)
    | none => say text
  | .editables file config => do say (← compileFile file config).editables.toJson.pretty
  | .hash file config => do
    let source := digestText (← readFile file)
    let c ← compileFile file config
    say ("source:  " ++ source)
    say ("payload: " ++ c.document.digest)

def versionText : String := "bpforge 0.3.0"

def usageText : String := "Usage: bpforge [-v] <init|validate|compile|editables|hash> [OPTIONS]"

/-- What the arguments ask for: 1 ends a command that has failed, 2 arguments that are wrong. -/
def run (args : List String) : m Report := do
  match parse args with
  | .error .version => return ⟨0, versionText ++ "\n", ""⟩
  | .error .help => return ⟨0, usageText ++ "\n", ""⟩
  | .error .misuse => return ⟨2, "", usageText ++ "\n"⟩
  | .ok c =>
    let (r, o) ← (runCommand c).run.run {}
    match r with
    | .ok () => return ⟨0, o.out, o.err⟩
    | .error e => return ⟨1, o.out, o.err ++ "error: " ++ e.message ++ "\n"⟩

end

end Blueprint.CommandLine
