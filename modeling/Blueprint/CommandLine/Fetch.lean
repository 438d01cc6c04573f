import Blueprint.CommandLine.FileSystem
import Blueprint.Module.Load

/-!
# Fetching modules

Loading works on files that are known. `fetch` reads a module with everything that it imports and
all files that these name.
-/

namespace Blueprint

/-! ### Files that declarations name -/

mutual

def StepSource.fileNames : StepSource → List String
  | .task _ t => t.script.file.toList
  | .parallel steps => stepFileNames steps
  | .serial steps => stepFileNames steps
  | .decision d success failure =>
    d.script.file.toList ++ stepFileNames success ++ stepFileNames failure
  | .loop _ body => stepFileNames body

def stepFileNames : List StepSource → List String
  | [] => []
  | s :: ss => s.fileNames ++ stepFileNames ss

end

def variableFileNames (vs : OrderedMap (Option VariableSource)) : List String :=
  vs.values.filterMap fun v => v.bind (·.script.file)

def EntitySource.fileNames (e : EntitySource) : List String :=
  variableFileNames e.vars ++
    (e.actions.values.flatMap fun a => variableFileNames a.vars ++ stepFileNames a.steps) ++
    e.createSpecFile.toList ++ e.secretFile.toList

def Declaration.paths (d : Declaration) : List Path :=
  d.source.fileNames.map fun name => d.file.beside ⟨name⟩

/-! ### Reading ahead -/

abbrev Fetched := List (Path × Except ReadFault String)

def Fetched.files (t : Fetched) : Files where
  read := fun p => (t.lookup p).getD (.error .noSuchFile)
  count := t.length

section

variable {m : Type → Type} [Monad m] [FileSystem m]

def fetchFile (t : Fetched) (p : Path) : m Fetched := do
  if (t.lookup p).isSome then return t
  return (p, ← read p) :: t

/-- Visits modules as loading does, and stops where loading fails. -/
def fetchAll : Nat → List Path → List Visit → Fetched → m Fetched
  | 0, _, _, t => return t
  | _ + 1, _, [], t => return t
  | fuel + 1, done, v :: queue, t => do
    if done.any v.file.same then fetchAll fuel done queue t
    else
      let t ← fetchFile t v.file
      match v.collect t.files with
      | .error _ => return t
      | .ok (declared, imports) =>
        let t ← (declared.flatMap (·.paths)).foldlM fetchFile t
        fetchAll fuel (v.file :: done) (queue ++ imports) t

/-- More visits than this are not made. -/
def maxVisits : Nat := 1000000

def fetch (file : Path) : m Files := do
  return (← fetchAll maxVisits [] [⟨file, 0, ∅⟩] []).files

end

end Blueprint
