import Blueprint.Error
import Blueprint.Path

/-!
# File systems

What a command asks of the files around it. Paths are seen from the working directory.
-/

namespace Blueprint

inductive FileKind where
  | file | directory
  deriving DecidableEq, Repr, Inhabited

class FileSystem (m : Type → Type) where
  read : Path → m (Except ReadFault String)
  write : Path → String → m (Except ReadFault Unit)
  /-- What is at a path, if anything. -/
  kind? : Path → m (Option FileKind)
  /-- The names in a directory. -/
  list : Path → m (List String)

export FileSystem (read write kind? list)

end Blueprint
