import Blueprint.CommandLine.Run

/-!
# The program

Runs a command on the files of the system.
-/

namespace Blueprint

def ReadFault.ofSystem : IO.Error → ReadFault
  | .noFileOrDirectory .. => .notFound
  | .inappropriateType _ 20 _ => .notDirectory
  | .inappropriateType _ 21 _ => .isDirectory
  | .permissionDenied _ code _ => .system code.toNat "Permission denied"
  | .invalidArgument _ 36 _ => .nameTooLong
  | .invalidArgument _ code reason => .system code.toNat reason
  | .inappropriateType _ code reason => .system code.toNat reason
  | .otherError code reason => .system code.toNat reason
  | _ => .notText

def guarded {α : Type} (a : IO α) : IO (Except ReadFault α) := do
  match ← a.toBaseIO with
  | .ok r => return .ok r
  | .error e => return .error (.ofSystem e)

instance : FileSystem IO where
  read p := guarded (IO.FS.readFile p.text)
  write p text := guarded (IO.FS.writeFile p.text text)
  kind? p := do
    match ← guarded (do (← IO.FS.realPath p.text).metadata) with
    | .ok data => return some (if data.type == .dir then .directory else .file)
    | .error _ => return none
  list p := do
    match ← guarded (do (← IO.FS.realPath p.text).readDir) with
    | .ok entries => return entries.toList.map (·.fileName)
    | .error _ => return []

end Blueprint

open Blueprint in
def main (args : List String) : IO UInt32 := do
  let r : CommandLine.Report ← CommandLine.run args
  IO.print r.out
  IO.eprint r.err
  return r.exit.toUInt32
