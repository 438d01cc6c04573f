import Blueprint.CommandLine.FileSystem

/-!
# Files in memory

A disk is a list of text files below its working directory, with the directories that lead to them.
Outside the working directory there is nothing.
-/

namespace Blueprint

structure Disk where
  /-- Files by the names on their way. -/
  files : List (List String × String) := []
  deriving Inhabited

namespace Disk

/-- The files of a list; of two at one place the last one counts. -/
def ofList (files : List (String × String)) : Disk :=
  let names := fun p => (Text.split '/' p).filter fun s => s != "" && s != "."
  ⟨(files.map fun (p, text) => (names p, text)).reverse⟩

def text? (d : Disk) (names : List String) : Option String := d.files.lookup names

def isDirectory (d : Disk) (names : List String) : Bool :=
  names.isEmpty || d.files.any fun f => names.isPrefixOf f.1 && names.length < f.1.length

/-- Goes on along the parts of a path. The place outside the working directory is none. -/
def walk (d : Disk) : Option (List String) → List String → Except ReadFault (Option (List String))
  | place, [] => .ok place
  | none, s :: ss =>
    if s == "" || s == "." || s == ".." then walk d none ss else .error .notFound
  | some names, s :: ss =>
    if !d.isDirectory names then .error .notDirectory
    else if s == "" || s == "." then walk d (some names) ss
    else if s == ".." then walk d (if names.isEmpty then none else some names.dropLast) ss
    else if 255 < s.utf8ByteSize then .error .nameTooLong
    else
      let next := names ++ [s]
      if (d.text? next).isSome || d.isDirectory next then walk d (some next) ss
      else .error .notFound

def locate (d : Disk) (p : Path) : Except ReadFault (Option (List String)) :=
  if p.text.toList.contains '\x00' then .error .zeroByte
  else if p.text.isEmpty then .error .notFound
  else if 4096 ≤ p.text.utf8ByteSize then .error .nameTooLong
  else d.walk (if p.isAbsolute then none else some []) (Text.split '/' p.text)

def readAt (d : Disk) (p : Path) : Except ReadFault String := do
  match ← d.locate p with
  | none => .error .isDirectory
  | some names => (d.text? names).elim (.error .isDirectory) .ok

def kindAt? (d : Disk) (p : Path) : Option FileKind :=
  match d.locate p with
  | .error _ => none
  | .ok none => some .directory
  | .ok (some names) => some (if (d.text? names).isSome then .file else .directory)

def setText (d : Disk) (names : List String) (text : String) : Disk :=
  ⟨(names, text) :: d.files.filter fun f => f.1 ≠ names⟩

/-- Makes a file in a directory that exists; its name may not end with a slash. -/
def create (d : Disk) (p : Path) (text : String) : Except ReadFault Disk := do
  let parts := (Text.split '/' p.text).reverse
  let slashed := parts.head? == some ""
  let parts := parts.dropWhile (· == "")
  match ← d.walk (if p.isAbsolute then none else some []) parts.tail.reverse, parts.head? with
  | some names, some name =>
    if !d.isDirectory names then .error .notDirectory
    else if slashed then .error .isDirectory
    else .ok (d.setText (names ++ [name]) text)
  | _, _ => .error .notFound

/-- Writes a file; it may be new, but its directory may not. -/
def writeAt (d : Disk) (p : Path) (text : String) : Except ReadFault Disk :=
  match d.locate p with
  | .ok none => .error .isDirectory
  | .ok (some names) =>
    if (d.text? names).isSome then .ok (d.setText names text) else .error .isDirectory
  | .error .notFound => if p.text.isEmpty then .error .notFound else d.create p text
  | .error fault => .error fault

def listAt (d : Disk) (p : Path) : List String :=
  match d.locate p with
  | .ok (some names) =>
    ((d.files.filter fun f => names.isPrefixOf f.1).filterMap fun f => f.1[names.length]?).eraseDups
  | _ => []

instance : FileSystem (StateM Disk) where
  read p := do return (← get).readAt p
  write p text := do
    match (← get).writeAt p text with
    | .ok d => set d; return .ok ()
    | .error fault => return .error fault
  kind? p := do return (← get).kindAt? p
  list p := do return (← get).listAt p

end Disk

end Blueprint
