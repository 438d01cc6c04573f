import Blueprint.Error
import Blueprint.Module.Source
import Blueprint.Path

/-!
# Files of modules

The files that modules are read from and that they name. A name is seen from the module that it
stands in.
-/

namespace Blueprint

structure Files where
  read : Path → Except ReadFault String
  /-- No more files than this can be read. -/
  count : Nat

namespace Files

/-- Files by their paths; of two with the same path the last one counts. -/
def ofList (files : List (Path × String)) : Files where
  read := fun p =>
    match files.reverse.find? fun f => f.1.same p with
    | some (_, text) => .ok text
    | none => .error .noSuchFile
  count := files.length

def readAt (fs : Files) (p : Path) : Except CompileError String :=
  (fs.read p).mapError (.unreadable p.text)

end Files

/-- A module under reading, with the files that it may name. -/
structure FileScope where
  files : Files
  file : Path

namespace FileScope

def read (s : FileScope) (name : String) : Except CompileError String :=
  s.files.readAt (s.file.beside ⟨name⟩)

def script (s : FileScope) (subject : String) (source : ScriptSource) :
    Except CompileError String :=
  match source.inline, source.file with
  | some text, none => .ok text
  | none, some file => s.read file
  | some _, some _ => .error (.validation subject .scriptTwice)
  | none, none => .error (.validation subject .noScript)

end FileScope

end Blueprint
